/-
# Bounded waits

A task of a worker and a job of a harvester run on the deployment, and a client waits for
them with a handle, which is a lease: a time budget, an interval and a number of polls. The
four loops are `_wait_for_task`, `_wait_for_job` and their asynchronous forms. The two
synchronous ones differ in what they observe and in the operation they name, and so do the
asynchronous ones; an asynchronous loop bounds its observation with `asyncio.timeout`.

The clock, the sleep, the read of a status document and the cancellations of the event loop
are operations of an environment. `World.locals` keeps the handles that were observed.
-/

import DataSluice.Catalog.UdataTargets
import DataSluice.Lib.Effect

namespace DataSluice.Catalog.Udata

open DataSluice.Lib DataSluice.Lib.Url DataSluice.Domain DataSluice.Runtime

/-! ## Handles -/

/-- The fields of a lease, with what `_validate_lease` checks. -/
structure Lease where
  budget : TimeBudget
  pollInterval : ℚ
  maxPolls : Nat
  polls : Nat
  exhausted : Bool
  abandoned : Bool
  interval_bounded : 0 ≤ pollInterval ∧ pollInterval ≤ 300
  polls_bounded : 1 ≤ maxPolls ∧ maxPolls ≤ 1024

/-- `abandoned_lease` on the fields of the lease. -/
def Lease.abandonedLease (lease : Lease) (exhausted : Bool) : Lease :=
  { lease with exhausted := exhausted, abandoned := true }

/-- `WORKER_TASK_STATES` -/
inductive TaskStatus
  | pending
  | received
  | started
  | success
  | failure
  | retry
  | revoked
  deriving DecidableEq

/-- The status text of a worker task. -/
def TaskStatus.text : TaskStatus → String
  | .pending => "PENDING"
  | .received => "RECEIVED"
  | .started => "STARTED"
  | .success => "SUCCESS"
  | .failure => "FAILURE"
  | .retry => "RETRY"
  | .revoked => "REVOKED"

/-- The task status of a text, if it is one. -/
def TaskStatus.ofText (text : String) : Option TaskStatus :=
  [TaskStatus.pending, .received, .started, .success, .failure, .retry, .revoked].find?
    fun status => status.text = text

/-- `status in WORKER_TERMINAL_TASK_STATES` -/
def TaskStatus.terminal : TaskStatus → Bool
  | .success | .failure | .revoked => true
  | .pending | .received | .started | .retry => false

/-- `UDataJobHandle` of the worker tasks -/
structure TaskHandle extends Lease where
  taskId : Text
  status : TaskStatus
  taskId_ne : taskId ≠ []

/-- `observed`: one poll more; the state of the lease is kept. -/
def TaskHandle.observed (handle : TaskHandle) (status : TaskStatus) : TaskHandle :=
  { handle with status := status, polls := handle.polls + 1 }

/-- `HARVEST_JOB_STATUSES` -/
inductive JobStatus
  | pending
  | initializing
  | initialized
  | processing
  | done
  | doneErrors
  | failed
  deriving DecidableEq

/-- The status text of a harvest job. -/
def JobStatus.text : JobStatus → String
  | .pending => "pending"
  | .initializing => "initializing"
  | .initialized => "initialized"
  | .processing => "processing"
  | .done => "done"
  | .doneErrors => "done-errors"
  | .failed => "failed"

/-- The job status of a text, if it is one. -/
def JobStatus.ofText (text : String) : Option JobStatus :=
  [JobStatus.pending, .initializing, .initialized, .processing, .done, .doneErrors, .failed].find?
    fun status => status.text = text

/-- `status in HARVEST_TERMINAL_JOB_STATUSES` -/
def JobStatus.terminal : JobStatus → Bool
  | .done | .doneErrors | .failed => true
  | .pending | .initializing | .initialized | .processing => false

/-- `UDataJobHandle` of the harvest jobs -/
structure JobHandle extends Lease where
  sourceId : Text
  jobId : Option Text
  status : JobStatus
  sourceId_ne : sourceId ≠ []
  jobId_ne : jobId ≠ some []

/-- `observed`: one poll more; the state of the lease starts anew. -/
def JobHandle.observed (handle : JobHandle) (status : JobStatus) : JobHandle :=
  { handle with status := status, polls := handle.polls + 1, exhausted := false, abandoned := false }

/-- `_WaitableHandle`: what the loops use of a handle. -/
class WaitableHandle (Handle : Type) where
  lease : Handle → Lease
  terminal : Handle → Bool
  abandonedLease : Handle → Bool → Handle
  /-- A handle that is given up has an abandoned lease. -/
  abandoned_abandonedLease : ∀ handle exhausted, (lease (abandonedLease handle exhausted)).abandoned

theorem TaskHandle.abandoned_abandonedLease (handle : TaskHandle) (exhausted : Bool) :
    (handle.toLease.abandonedLease exhausted).abandoned = true := rfl

instance : WaitableHandle TaskHandle where
  lease := TaskHandle.toLease
  terminal handle := handle.status.terminal
  abandonedLease handle exhausted := { handle with toLease := handle.toLease.abandonedLease exhausted }
  abandoned_abandonedLease := TaskHandle.abandoned_abandonedLease

theorem JobHandle.abandoned_abandonedLease (handle : JobHandle) (exhausted : Bool) :
    (handle.toLease.abandonedLease exhausted).abandoned = true := rfl

instance : WaitableHandle JobHandle where
  lease := JobHandle.toLease
  terminal handle := handle.status.terminal
  abandonedLease handle exhausted := { handle with toLease := handle.toLease.abandonedLease exhausted }
  abandoned_abandonedLease := JobHandle.abandoned_abandonedLease

/-! ## Status documents -/

/-- A refused document. -/
def documentError (operation message safeAction : String) : Raised :=
  { errorClass := .validation
    message
    operation := some operation
    platform := some "udata"
    safeAction := some safeAction }

/-- `MappingRecord(payload)`, by its payload. -/
def mappingRecord (payload : Value) : Except Raised Value :=
  match freezeJson "mapping_record.payload" payload with
  | .ok record => .ok record
  | .error error => .error { errorClass := .exception, message := error.message }

/-- `payload.get(key)` on the entries of a mapping. -/
def getEntry (entries : List (Key × Value)) (key : String) : Option Value :=
  entries.lookup (.text key)

/-- `isinstance(value, str) and value` -/
def isIdentifier : Option Value → Bool
  | some (.str text) => text != ""
  | _ => false

/-- The `status` of a record, when it is a string. -/
def statusText : Value → Option String
  | .dict entries | .proxy entries =>
      match getEntry entries "status" with
      | some (.str text) => some text
      | _ => none
  | _ => none

/-- `GET_TASK_OPERATION` -/
def getTaskOperation : String := "udata/api-v1.get-task"

/-- `_PINNED_SCHEMA_ACTION` -/
def pinnedSchemaAction : String := "Verify the response against the pinned uData 17.6 schema."

/-- `_PINNED_HARVEST_ACTION` -/
def pinnedHarvestAction : String :=
  "Verify the response against the pinned uData 17.6 harvest schema."

/-- `parse_record` on a task document -/
def parseTaskRecord : Value → Except Raised Value
  | .dict (entry :: entries) =>
      if isIdentifier (getEntry (entry :: entries) "id") then
        mappingRecord (.dict (entry :: entries))
      else
        .error (documentError getTaskOperation
          "The uData worker task response must carry a non-empty string identifier."
          pinnedSchemaAction)
  | _ =>
      .error (documentError getTaskOperation
        "The uData worker task response must be a non-empty JSON object." pinnedSchemaAction)

/-- `parse_task_status` -/
def parseTaskStatus (record : Value) : Except Raised TaskStatus :=
  match (statusText record).bind TaskStatus.ofText with
  | some status => .ok status
  | none =>
      .error (documentError getTaskOperation
        "The uData worker task response does not declare a known task status."
        pinnedSchemaAction)

/-- `parse_record` on a job document -/
def parseJobRecord : Value → Except Raised Value
  | .dict (entry :: entries) =>
      if (getEntry (entry :: entries) "id").isSome &&
          !isIdentifier (getEntry (entry :: entries) "id") then
        .error (documentError harvestOperation
          "The uData harvest record identifier must be a non-empty string." pinnedHarvestAction)
      else mappingRecord (.dict (entry :: entries))
  | _ =>
      .error (documentError harvestOperation
        "The uData harvest response must be a non-empty JSON object." pinnedHarvestAction)

/-- `parse_job_status` -/
def parseJobStatus (record : Value) : Except Raised JobStatus :=
  match (statusText record).bind JobStatus.ofText with
  | some status => .ok status
  | none =>
      .error (documentError harvestOperation
        "The uData harvest job response does not declare a known job status." pinnedHarvestAction)

/-- The path of `get_task_request` -/
def getTaskPath (taskId : Text) : Except Raised Text := do
  let segment ← pathSegment taskId getTaskOperation "uData worker task"
  return "/api/1/workers/tasks/".toList ++ (segment ++ ['/'])

/-- The path of `get_job_request` -/
def getJobPath (jobId : Text) : Except Raised Text := do
  let segment ← pathSegment jobId harvestOperation "uData harvest job"
  return "/api/1/harvest/job/".toList ++ (segment ++ ['/'])

/-! ## The environment of a wait -/

/-- An exception: a `TimeoutError`, or any other. -/
inductive WaitError
  | timeout
  | raised (error : Raised)

def WaitError.isBudgetExhausted : WaitError → Bool
  | .timeout => false
  | .raised error => decide (error.errorClass = .budgetExhausted)

def WaitError.isCancelled : WaitError → Bool
  | .timeout => false
  | .raised error => decide (error.errorClass = .cancelled)

/-- An operation outside the loops. -/
inductive WaitOp
  | clock
  | sleep (delay : ℚ)
  | /-- One bounded read of a status document. -/
    read (path : Text)
  | /-- `asyncio.timeout` is entered. -/
    timeout (seconds : ℚ)
  | /-- `deadline.expired()` when the timeout is left. -/
    expired
  | /-- `task.uncancel() <= cancelling`: nobody else asks for a cancellation. -/
    uncancelled

/-- The answer to an operation. -/
def WaitOp.Answer : WaitOp → Type
  | .clock => ℚ
  | .sleep _ => Except WaitError Unit
  | .read _ => Except WaitError Value
  | .timeout _ => Unit
  | .expired => Bool
  | .uncancelled => Bool

/-- The world of a wait, with the handles that were observed. -/
abbrev WaitWorld (Handle : Type) : Type := World WaitOp.Answer (List Handle)

/-- A program of a wait. -/
abbrev Wait (Handle α : Type) : Type := Effect (WaitWorld Handle) WaitError α

/-- Nothing has happened. -/
def WaitWorld.start (Handle : Type) : WaitWorld Handle := ⟨[], []⟩

section Loops

variable {Handle : Type} (environment : Environment WaitOp.Answer) (monitor : DeadlineMonitor)

/-- The clock of the monitor. -/
def waitClock {Error : Type} : Effect (WaitWorld Handle) Error ℚ := perform environment .clock

/-- `monitor.remaining()` -/
def waitRemaining : Wait Handle ℚ := do return monitor.left (← waitClock environment)

/-- A program whose exceptions are those of the runtime. -/
def liftRaised {α : Type} (program : Effect (WaitWorld Handle) Raised α) : Wait Handle α :=
  fun world =>
    match program world with
    | (.ok value, target) => (.ok value, target)
    | (.error error, target) => (.error (.raised error), target)

/-- `monitor.assert_dispatchable(operation, PLATFORM)` -/
def waitDispatchable (operation : String) : Wait Handle Unit :=
  liftRaised ((monitor.named operation "udata").assertDispatchable (waitClock environment))

/-- `sleeper(delay)` -/
def waitSleep (delay : ℚ) : Wait Handle Unit := do
  let answer ← perform environment (.sleep delay)
  Effect.ofExcept answer

/-- `_read_admin`, by the document it returns. -/
def readAdmin (path : Text) : Wait Handle Value := do
  let answer ← perform environment (.read path)
  Effect.ofExcept answer

/-- A computation without effects whose exceptions are those of the runtime. -/
def waitExcept {α : Type} : Except Raised α → Wait Handle α
  | .ok value => pure value
  | .error error => Effect.raise (.raised error)

/-- `try: monitor.assert_dispatchable(…) except BudgetExhaustedError: …`, by whether the
budget allows the observation. -/
def mayObserve (operation : String) : Wait Handle Bool :=
  Effect.tryExcept
    (do
      waitDispatchable environment monitor operation
      return true)
    fun error => if error.isBudgetExhausted then return false else Effect.raise error

/-- `_observe_task`, with the read it is given, and its asynchronous form. -/
def observeTask (handle : TaskHandle) : Wait TaskHandle (TaskHandle × Value) := do
  if ← mayObserve environment monitor getTaskOperation then
    let path ← waitExcept (getTaskPath handle.taskId)
    let payload ← readAdmin environment path
    let record ← waitExcept (parseTaskRecord payload)
    let status ← waitExcept (parseTaskStatus record)
    return (handle.observed status, record)
  else
    let record := .proxy [(.text "id", .str (String.ofList handle.taskId)),
      (.text "status", .str handle.status.text)]
    return (WaitableHandle.abandonedLease handle true, record)

/-- `_observe_job` with `_job_observation_request` and `_job_observation`, and its
asynchronous form. -/
def observeJob (handle : JobHandle) : Wait JobHandle (JobHandle × Value) := do
  match handle.jobId with
  | none =>
      Effect.raise (.raised
        { errorClass := .validation
          message := "The harvest job wait requires a queued job identifier."
          operation := some harvestOperation
          platform := some "udata"
          safeAction := some
            "Pass the handle returned by run_source, or resolve the queued job first." })
  | some jobId =>
      if ← mayObserve environment monitor harvestOperation then
        let path ← waitExcept (getJobPath jobId)
        let payload ← readAdmin environment path
        let record ← waitExcept (parseJobRecord payload)
        let status ← waitExcept (parseJobStatus record)
        return (handle.observed status, record)
      else
        let record := .proxy [(.text "status", .str handle.status.text)]
        return (WaitableHandle.abandonedLease handle true, record)

variable [WaitableHandle Handle]

/-- The result of a wait: `WorkerTaskWaitResult` and `HarvestJobWaitResult`. -/
structure WaitResult (Handle : Type) where
  handle : Handle
  record : Option Value

/-- `_wait_step`: whether the loop goes on, and else the handle it stops with. -/
def waitStep (handle : Handle) (delay : ℚ) : Wait Handle (Bool × Handle) := do
  let lease := WaitableHandle.lease handle
  if WaitableHandle.terminal handle || lease.abandoned then return (false, handle)
  else if lease.maxPolls ≤ lease.polls then
    return (false, WaitableHandle.abandonedLease handle false)
  else if (← waitRemaining environment monitor) ≤ delay then
    return (false, WaitableHandle.abandonedLease handle true)
  else return (true, handle)

/-- One call of `observe`. -/
def callObserve (observe : Handle → Wait Handle (Handle × Value)) (handle : Handle) :
    Wait Handle (Handle × Value) := do
  setLocals (· ++ [handle])
  observe handle

/-- The `try` block of a synchronous loop; no result when the budget is exhausted. -/
def observeBounded (operation : String) (observe : Handle → Wait Handle (Handle × Value))
    (current : Handle) : Wait Handle (Option (Handle × Value)) :=
  Effect.tryExcept
    (do
      waitDispatchable environment monitor operation
      let observed ← callObserve observe current
      waitDispatchable environment monitor operation
      return some observed)
    fun error => if error.isBudgetExhausted then return none else Effect.raise error

/-- The `try` block of an asynchronous loop. The cancellation that an expired timeout sends
leaves it as a `TimeoutError`, unless somebody else asks for one too. -/
def observeInTime (operation : String) (observe : Handle → Wait Handle (Handle × Value))
    (current : Handle) : Wait Handle (Option (Handle × Value)) := do
  let remaining ← waitRemaining environment monitor
  perform environment (.timeout (max 0 remaining))
  Effect.tryExcept
    (do
      let observed ← callObserve observe current
      waitDispatchable environment monitor operation
      return some observed)
    fun error => do
      let expired : Bool ← perform environment .expired
      let uncancelled : Bool ← perform environment .uncancelled
      let left := if expired && uncancelled && error.isCancelled then .timeout else error
      if left.isBudgetExhausted then return none
      else
        match left with
        | .timeout => if expired then return none else Effect.raise left
        | .raised _ => Effect.raise left

/-- The iterations of a loop, at most so many of them. -/
def waitFrom (attempt : Handle → Wait Handle (Option (Handle × Value))) :
    Nat → Handle → Option Value → Wait Handle (Option (WaitResult Handle))
  | 0, _, _ => return none
  | fuel + 1, current, record => do
      let delay := (WaitableHandle.lease current).pollInterval
      let (proceed, stopped) ← waitStep environment monitor current delay
      if proceed then
        if 0 < delay then waitSleep environment delay
        match ← attempt current with
        | none => return some ⟨WaitableHandle.abandonedLease current true, record⟩
        | some (observed, observedRecord) => waitFrom attempt fuel observed (some observedRecord)
      else return some ⟨stopped, record⟩

end Loops

section Waits

variable (environment : Environment WaitOp.Answer) (monitor : DeadlineMonitor) (fuel : Nat)

/-- `_wait_for_task` with the observation of `wait_for_task` -/
def waitForTask (handle : TaskHandle) : Wait TaskHandle (Option (WaitResult TaskHandle)) :=
  waitFrom environment monitor
    (observeBounded environment monitor getTaskOperation (observeTask environment monitor))
    fuel handle none

/-- `_wait_for_task_async` with the observation of `wait_for_task` -/
def waitForTaskAsync (handle : TaskHandle) : Wait TaskHandle (Option (WaitResult TaskHandle)) :=
  waitFrom environment monitor
    (observeInTime environment monitor getTaskOperation (observeTask environment monitor))
    fuel handle none

/-- `_wait_for_job` with the observation of `wait_for_job` -/
def waitForJob (handle : JobHandle) : Wait JobHandle (Option (WaitResult JobHandle)) :=
  waitFrom environment monitor
    (observeBounded environment monitor harvestOperation (observeJob environment monitor))
    fuel handle none

/-- `_wait_for_job_async` with the observation of `wait_for_job` -/
def waitForJobAsync (handle : JobHandle) : Wait JobHandle (Option (WaitResult JobHandle)) :=
  waitFrom environment monitor
    (observeInTime environment monitor harvestOperation (observeJob environment monitor))
    fuel handle none

end Waits

/-! ## What a wait keeps -/

/-- Every sleep was decided by a reading of the clock just before it, at which more than the
sleep was left of the budget. -/
def SleepsDecided (monitor : DeadlineMonitor) (history : List (Happening WaitOp.Answer)) : Prop :=
  ∀ index delay answer, history[index]? = some ⟨.sleep delay, answer⟩ →
    ∃ now : ℚ, 0 < index ∧ history[index - 1]? = some ⟨.clock, now⟩ ∧ delay < monitor.left now

variable {environment : Environment WaitOp.Answer} {monitor : DeadlineMonitor}

theorem SleepsDecided.append {history : List (Happening WaitOp.Answer)}
    (hsleeps : SleepsDecided monitor history) (happening : Happening WaitOp.Answer)
    (hlast : ∀ delay, happening.1 = .sleep delay → ∃ earlier now,
      history = earlier ++ [⟨.clock, now⟩] ∧ delay < monitor.left now) :
    SleepsDecided monitor (history ++ [happening]) := by
  intro index delay answer hindex
  rcases Nat.lt_or_ge index history.length with hlt | hge
  · rw [List.getElem?_append_left hlt] at hindex
    obtain ⟨now, hpos, hclock, hdelay⟩ := hsleeps index delay answer hindex
    refine ⟨now, hpos, ?_, hdelay⟩
    rw [List.getElem?_append_left (by omega), hclock]
  · have hend : index = history.length := by
      have hlength := (List.getElem?_eq_some_iff.mp hindex).1
      rw [List.length_append, List.length_singleton] at hlength
      omega
    rw [hend, List.getElem?_concat_length, Option.some_inj] at hindex
    obtain ⟨earlier, now, rfl, hdelay⟩ := hlast delay (congrArg Sigma.fst hindex)
    rw [List.length_append, List.length_singleton] at hend
    refine ⟨now, by omega, ?_, hdelay⟩
    rw [hend, Nat.add_sub_cancel, List.append_assoc, List.getElem?_append_right (Nat.le_refl _),
      Nat.sub_self]
    rfl

theorem keeps_liftRaised {Handle α : Type} {P : WaitWorld Handle → Prop}
    {program : Effect (WaitWorld Handle) Raised α} (hprogram : Effect.Keeps P program) :
    Effect.Keeps P (liftRaised program) := by
  intro world hworld
  have htarget := hprogram world hworld
  rw [liftRaised]
  cases hrun : program world with
  | mk result target =>
      rw [hrun] at htarget
      cases result with
      | ok value => exact htarget
      | error error => exact htarget

theorem keeps_waitExcept {Handle α : Type} {P : WaitWorld Handle → Prop} (result : Except Raised α) :
    Effect.Keeps P (waitExcept result : Wait Handle α) := by
  cases result with
  | ok value => exact .pure value
  | error error => exact .raise _

theorem keeps_ofExcept {Handle α : Type} {P : WaitWorld Handle → Prop} (result : Except WaitError α) :
    Effect.Keeps P (Effect.ofExcept result : Wait Handle α) := by
  cases result with
  | ok value => exact .pure value
  | error error => exact .raise error

section Kept

variable {Handle : Type} [WaitableHandle Handle] {bound left : Nat}

/-- The handle is neither terminal nor abandoned. -/
def Live (handle : Handle) : Prop :=
  WaitableHandle.terminal handle = false ∧ (WaitableHandle.lease handle).abandoned = false

/-- What holds while a wait may make so many observations more. -/
structure Within (monitor : DeadlineMonitor) (bound left : Nat) (world : WaitWorld Handle) :
    Prop where
  observed : world.locals.length + left ≤ bound
  /-- No handle was observed that had nothing more to wait for. -/
  live : ∀ handle ∈ world.locals, Live handle
  sleeps : SleepsDecided monitor world.history

theorem Within.mono {less : Nat} {world : WaitWorld Handle} (hwithin : Within monitor bound left world)
    (hless : less ≤ left) : Within monitor bound less world :=
  ⟨by have := hwithin.observed; omega, hwithin.live, hwithin.sleeps⟩

/-- An operation that is no sleep changes nothing. -/
theorem keeps_perform {Error : Type} (op : WaitOp) (hop : ∀ delay, op ≠ .sleep delay) :
    Effect.Keeps (Within monitor bound left : WaitWorld Handle → Prop)
      (perform environment op : Effect (WaitWorld Handle) Error op.Answer) := by
  intro world hwithin
  exact ⟨hwithin.observed, hwithin.live,
    hwithin.sleeps.append _ fun delay hsleep => absurd hsleep (hop delay)⟩

theorem keeps_waitClock {Error : Type} :
    Effect.Keeps (Within monitor bound left : WaitWorld Handle → Prop)
      (waitClock environment : Effect (WaitWorld Handle) Error ℚ) :=
  keeps_perform .clock fun _ => WaitOp.noConfusion

theorem keeps_waitRemaining :
    Effect.Keeps (Within monitor bound left : WaitWorld Handle → Prop)
      (waitRemaining environment monitor) :=
  keeps_waitClock.bind fun _ => .pure _

theorem keeps_waitDispatchable (operation : String) :
    Effect.Keeps (Within monitor bound left : WaitWorld Handle → Prop)
      (waitDispatchable environment monitor operation) := by
  apply keeps_liftRaised
  apply Effect.Keeps.bind
  · exact keeps_waitClock.bind fun _ => .pure _
  · intro remaining
    split
    · exact keeps_waitClock.bind fun _ => .raise _
    · exact .pure ()

theorem keeps_readAdmin (path : Text) :
    Effect.Keeps (Within monitor bound left : WaitWorld Handle → Prop) (readAdmin environment path) :=
  (keeps_perform (.read path) fun _ => WaitOp.noConfusion).bind fun _ => keeps_ofExcept _

theorem keeps_mayObserve (operation : String) :
    Effect.Keeps (Within monitor bound left : WaitWorld Handle → Prop)
      (mayObserve environment monitor operation) := by
  apply Effect.Keeps.tryExcept
  · exact (keeps_waitDispatchable operation).bind fun _ => .pure true
  · intro error
    split
    · exact .pure false
    · exact .raise error

theorem keeps_observeTask (handle : TaskHandle) :
    Effect.Keeps (Within monitor bound left) (observeTask environment monitor handle) := by
  apply (keeps_mayObserve getTaskOperation).bind
  intro allowed
  split
  · refine (keeps_waitExcept _).bind ?_
    intro path
    refine (keeps_readAdmin path).bind ?_
    intro payload
    exact (keeps_waitExcept _).bind fun record => (keeps_waitExcept _).bind fun _ => .pure _
  · exact .pure _

theorem keeps_observeJob (handle : JobHandle) :
    Effect.Keeps (Within monitor bound left) (observeJob environment monitor handle) := by
  rw [observeJob]
  cases handle.jobId with
  | none => exact .raise _
  | some jobId =>
      apply (keeps_mayObserve harvestOperation).bind
      intro allowed
      split
      · refine (keeps_waitExcept _).bind ?_
        intro path
        refine (keeps_readAdmin path).bind ?_
        intro payload
        exact (keeps_waitExcept _).bind fun record => (keeps_waitExcept _).bind fun _ => .pure _
      · exact .pure _

/-! ### What an observation makes of a handle -/

/-- An observation gives the handle up, or counts one poll. -/
def Advanced (handle next : Handle) : Prop :=
  (WaitableHandle.lease next).abandoned = true ∨
    ((WaitableHandle.lease next).polls = (WaitableHandle.lease handle).polls + 1 ∧
      (WaitableHandle.lease next).maxPolls = (WaitableHandle.lease handle).maxPolls)

/-- The observation advances every handle that it returns. -/
def Advances (observe : Handle → Wait Handle (Handle × Value)) : Prop :=
  ∀ handle, Effect.Ends (fun _ => True) (observe handle)
    (fun result _ => Advanced handle result.1) (fun _ _ => True)

theorem advances_observeTask : Advances (observeTask environment monitor) := by
  intro handle
  apply Effect.Ends.anything.bind
  intro allowed
  split
  · apply Effect.Ends.anything.bind
    intro path
    apply Effect.Ends.anything.bind
    intro payload
    apply Effect.Ends.anything.bind
    intro record
    apply Effect.Ends.anything.bind
    intro status
    exact .pure fun _ _ => .inr ⟨rfl, rfl⟩
  · exact .pure fun _ _ => .inl rfl

theorem advances_observeJob : Advances (observeJob environment monitor) := by
  intro handle
  rw [observeJob]
  cases handle.jobId with
  | none => exact .raise fun _ _ => trivial
  | some jobId =>
      apply Effect.Ends.anything.bind
      intro allowed
      split
      · apply Effect.Ends.anything.bind
        intro path
        apply Effect.Ends.anything.bind
        intro payload
        apply Effect.Ends.anything.bind
        intro record
        apply Effect.Ends.anything.bind
        intro status
        exact .pure fun _ _ => .inr ⟨rfl, rfl⟩
      · exact .pure fun _ _ => .inl rfl

/-- What the loops rely on of an observation. -/
structure Observation (monitor : DeadlineMonitor)
    (observe : Handle → Wait Handle (Handle × Value)) : Prop where
  keeps : ∀ bound left handle, Effect.Keeps (Within monitor bound left) (observe handle)
  advances : Advances observe

theorem observation_observeTask :
    Observation monitor (observeTask environment monitor) :=
  ⟨fun _ _ => keeps_observeTask, advances_observeTask⟩

theorem observation_observeJob : Observation monitor (observeJob environment monitor) :=
  ⟨fun _ _ => keeps_observeJob, advances_observeJob⟩

variable {observe : Handle → Wait Handle (Handle × Value)} {current : Handle}

/-- A call of `observe` takes one of the observations that are left. -/
theorem ends_callObserve (hobserve : Observation monitor observe) (hlive : Live current) :
    Effect.Ends (Within monitor bound (left + 1)) (callObserve observe current)
      (fun result world => Within monitor bound left world ∧ Advanced current result.1)
      (fun _ => Within monitor bound left) := by
  apply Effect.Ends.bind (R := fun _ => Within monitor bound left)
  · apply Ends.setLocals
    intro world hwithin
    constructor
    · have hobserved := hwithin.observed
      show (world.locals ++ [current]).length + left ≤ bound
      rw [List.length_append, List.length_singleton]
      omega
    · intro handle hhandle
      rcases List.mem_append.mp hhandle with hearlier | hlast
      · exact hwithin.live handle hearlier
      · rw [List.mem_singleton.mp hlast]
        exact hlive
    · exact hwithin.sleeps
  · intro _
    have hboth := (hobserve.keeps bound left current).ends.and
      ((hobserve.advances current).weaken (fun _ _ => trivial) (fun _ _ => id) fun _ _ => id)
    exact hboth.weaken (fun _ => id) (fun _ _ => id) fun _ _ h => h.1

/-- What a `try` block of the loops does with a handle that is live. -/
def Attempts (monitor : DeadlineMonitor) (attempt : Handle → Wait Handle (Option (Handle × Value))) :
    Prop :=
  ∀ current bound left, Live current →
    Effect.Ends (Within monitor bound (left + 1)) (attempt current)
      (fun result world => Within monitor bound left world ∧
        ∀ observed ∈ result, Advanced current observed.1)
      (fun _ => Within monitor bound left)

/-- The observation between two looks at the budget. -/
theorem ends_observed (hobserve : Observation monitor observe) (hlive : Live current)
    (operation : String) :
    Effect.Ends (Within monitor bound (left + 1))
      (do
        let observed ← callObserve observe current
        waitDispatchable environment monitor operation
        return some observed)
      (fun result world => Within monitor bound left world ∧
        ∀ observed ∈ result, Advanced current observed.1)
      (fun _ => Within monitor bound left) := by
  apply (ends_callObserve hobserve hlive).bind
  intro observed
  apply Effect.Ends.assume (fun _ h => h.2)
  intro hadvanced
  apply Effect.Ends.bind (R := fun _ => Within monitor bound left)
  · exact (keeps_waitDispatchable operation).ends.weaken (fun _ h => h.1) (fun _ _ => id)
      fun _ _ => id
  · intro _
    apply Effect.Ends.pure
    intro world hwithin
    refine ⟨hwithin, fun other hother => ?_⟩
    rw [← Option.some_inj.mp hother]
    exact hadvanced

theorem attempts_observeBounded (hobserve : Observation monitor observe) (operation : String) :
    Attempts monitor (observeBounded environment monitor operation observe) := by
  intro current bound left hlive
  apply Effect.Ends.tryExcept (F := fun _ => Within monitor bound left)
  · apply Effect.Ends.bind (R := fun _ => Within monitor bound (left + 1))
    · exact (keeps_waitDispatchable operation).ends.weaken (fun _ => id) (fun _ _ => id)
        fun _ _ h => h.mono (Nat.le_succ left)
    · exact fun _ => ends_observed hobserve hlive operation
  · intro error
    apply Effect.Ends.ite
    · exact fun _ => .pure fun _ hwithin => ⟨hwithin, nofun⟩
    · exact fun _ => .raise fun _ => id

theorem attempts_observeInTime (hobserve : Observation monitor observe) (operation : String) :
    Attempts monitor (observeInTime environment monitor operation observe) := by
  intro current bound left hlive
  have hless : ∀ (error : WaitError) (world : WaitWorld Handle),
      Within monitor bound (left + 1) world → Within monitor bound left world :=
    fun _ _ h => h.mono (Nat.le_succ left)
  apply (keeps_waitRemaining.ends.weaken (fun _ => id) (fun _ _ => id) hless).bind
  intro remaining
  apply Effect.Ends.bind (R := fun _ => Within monitor bound (left + 1))
  · exact (keeps_perform _ fun _ => WaitOp.noConfusion).ends.weaken (fun _ => id) (fun _ _ => id)
      hless
  · intro _
    apply Effect.Ends.tryExcept (F := fun _ => Within monitor bound left)
    · exact ends_observed hobserve hlive operation
    · intro error
      apply ((keeps_perform .expired fun _ => WaitOp.noConfusion).ends).bind
      intro expired
      apply ((keeps_perform .uncancelled fun _ => WaitOp.noConfusion).ends).bind
      intro uncancelled
      have hnone : Effect.Ends (Within monitor bound left)
          (pure none : Wait Handle (Option (Handle × Value)))
          (fun result world => Within monitor bound left world ∧
            ∀ observed ∈ result, Advanced current observed.1)
          (fun _ => Within monitor bound left) := .pure fun _ hwithin => ⟨hwithin, nofun⟩
      apply Effect.Ends.ite
      · exact fun _ => hnone
      · intro _
        split
        · split
          · exact hnone
          · exact .raise fun _ => id
        · exact .raise fun _ => id

/-! ### The loops -/

/-- There is nothing more to wait for. -/
def Settled (handle : Handle) : Prop :=
  WaitableHandle.terminal handle = true ∨ (WaitableHandle.lease handle).abandoned = true

/-- The last thing that happened is a reading of the clock that lets the sleep be decided. -/
def MaySleep (monitor : DeadlineMonitor) (delay : ℚ) (world : WaitWorld Handle) : Prop :=
  ∃ (earlier : List (Happening WaitOp.Answer)) (now : ℚ),
    world.history = earlier ++ [⟨.clock, now⟩] ∧ delay < monitor.left now

/-- The loop goes on with a live handle that has polls left, and stops with a settled one. -/
theorem ends_waitStep (handle : Handle) (delay : ℚ) :
    Effect.Ends (Within monitor bound left) (waitStep environment monitor handle delay)
      (fun result world => Within monitor bound left world ∧
        if result.1 then Live handle ∧
          (WaitableHandle.lease handle).polls < (WaitableHandle.lease handle).maxPolls ∧
            MaySleep monitor delay world
        else Settled result.2)
      (fun _ => Within monitor bound left) := by
  apply Effect.Ends.ite
  · intro hsettled
    exact .pure fun _ hwithin => ⟨hwithin, Bool.or_eq_true_iff.mp hsettled⟩
  · intro hlive
    rw [Bool.not_eq_true, Bool.or_eq_false_iff] at hlive
    apply Effect.Ends.ite
    · intro _
      exact .pure fun _ hwithin =>
        ⟨hwithin, .inr (WaitableHandle.abandoned_abandonedLease handle false)⟩
    · intro hpolls
      have hclock : Effect.Ends (Within monitor bound left)
          (waitRemaining environment monitor : Wait Handle ℚ)
          (fun remaining world => Within monitor bound left world ∧
            ∃ (earlier : List (Happening WaitOp.Answer)) (now : ℚ),
              world.history = earlier ++ [⟨.clock, now⟩] ∧ remaining = monitor.left now)
          (fun _ => Within monitor bound left) := by
        intro world hwithin
        constructor
        · intro remaining target hrun
          have hkept : Within monitor bound left
              ((waitRemaining environment monitor : Wait Handle ℚ) world).2 :=
            keeps_waitRemaining world hwithin
          rw [hrun] at hkept
          cases hrun
          exact ⟨hkept, _, _, rfl, rfl⟩
        · intro error target hrun
          cases hrun
      apply hclock.bind
      intro remaining
      apply Effect.Ends.ite
      · intro _
        exact .pure fun _ hwithin =>
          ⟨hwithin.1, .inr (WaitableHandle.abandoned_abandonedLease handle true)⟩
      · intro hdelay
        apply Effect.Ends.pure
        intro world hworld
        obtain ⟨hwithin, earlier, now, hhistory, hremaining⟩ := hworld
        rw [hremaining] at hdelay
        exact ⟨hwithin, hlive, not_le.mp hpolls, earlier, now, hhistory, not_le.mp hdelay⟩

/-- The sleep that a step decided. -/
theorem ends_waitSleep (delay : ℚ) :
    Effect.Ends (fun world : WaitWorld Handle => Within monitor bound left world ∧
        MaySleep monitor delay world)
      (waitSleep environment delay) (fun _ => Within monitor bound left)
      (fun _ => Within monitor bound left) := by
  apply Effect.Ends.bind (R := fun _ => Within monitor bound left)
  · apply Ends.perform
    intro world answer hworld
    obtain ⟨hwithin, earlier, now, hhistory, hdelay⟩ := hworld
    refine ⟨hwithin.observed, hwithin.live, hwithin.sleeps.append _ fun other hother => ?_⟩
    obtain rfl := WaitOp.sleep.inj hother
    exact ⟨earlier, now, hhistory, hdelay⟩
  · exact fun answer => (keeps_ofExcept answer).ends

/-- What follows a sleep starts where the sleep did, whether there is one or not. -/
theorem ends_sleepThen {α : Type} {program : Wait Handle α} {Q : α → WaitWorld Handle → Prop}
    {E : WaitError → WaitWorld Handle → Prop} {delay : ℚ}
    (hprogram : Effect.Ends (Within monitor bound left) program Q E)
    (hraised : ∀ error world, Within monitor bound left world → E error world) :
    Effect.Ends (fun world => Within monitor bound left world ∧ MaySleep monitor delay world)
      (if 0 < delay then do
        waitSleep environment delay
        program
      else program) Q E := by
  apply Effect.Ends.ite
  · intro _
    exact ((ends_waitSleep delay).weaken (fun _ => id) (fun _ _ => id) hraised).bind
      fun _ => hprogram
  · exact fun _ => hprogram.weaken (fun _ h => h.1) (fun _ _ => id) fun _ _ => id

/-- The observations that a handle may still take. -/
def pollsLeft (handle : Handle) : Nat :=
  if (WaitableHandle.lease handle).abandoned then 0
  else (WaitableHandle.lease handle).maxPolls - (WaitableHandle.lease handle).polls

/-- With an iteration for each poll that is left, and one more, a loop ends with a settled
handle, unless an exception leaves it. -/
theorem ends_waitFrom {attempt : Handle → Wait Handle (Option (Handle × Value))}
    (hattempt : Attempts monitor attempt) (bound : Nat) :
    ∀ fuel current record, pollsLeft current < fuel →
      Effect.Ends (Within monitor bound (pollsLeft current))
        (waitFrom environment monitor attempt fuel current record)
        (fun result world => Within monitor bound 0 world ∧
          ∃ stopped, result = some stopped ∧ Settled stopped.handle)
        (fun _ => Within monitor bound 0) := by
  intro fuel
  induction fuel with
  | zero => exact fun _ _ hfuel => absurd hfuel (Nat.not_lt_zero _)
  | succ fuel ih =>
      intro current record hfuel
      rw [waitFrom]
      apply ((ends_waitStep current _).weaken (fun _ => id) (fun _ _ => id)
        fun _ _ h => h.mono (Nat.zero_le _)).bind
      intro decision
      obtain ⟨proceed, stopped⟩ := decision
      cases proceed with
      | false =>
          exact .pure fun _ hworld => ⟨hworld.1.mono (Nat.zero_le _), _, rfl, hworld.2⟩
      | true =>
          apply Effect.Ends.assume (fun _ h => (⟨h.2.1, h.2.2.1⟩ : Live current ∧ _))
          intro hcurrent
          obtain ⟨hlive, hpolls⟩ := hcurrent
          have hleft : pollsLeft current =
              (WaitableHandle.lease current).maxPolls - (WaitableHandle.lease current).polls := by
            rw [pollsLeft, hlive.2]
            rfl
          obtain ⟨left, hsucc⟩ : ∃ left, pollsLeft current = left + 1 :=
            ⟨pollsLeft current - 1, by omega⟩
          rw [hsucc]
          have hweak : ∀ (error : WaitError) (world : WaitWorld Handle),
              Within monitor bound left world → Within monitor bound 0 world :=
            fun _ _ h => h.mono (Nat.zero_le _)
          apply Effect.Ends.weaken (ends_sleepThen _ fun _ _ h => h.mono (Nat.zero_le _))
            (fun _ h => ⟨h.1, h.2.2.2⟩) (fun _ _ => id) fun _ _ => id
          apply ((hattempt current bound left hlive).weaken (fun _ => id) (fun _ _ => id) hweak).bind
          intro result
          cases result with
          | none =>
              exact .pure fun _ hworld => ⟨hworld.1.mono (Nat.zero_le _), _, rfl,
                .inr (WaitableHandle.abandoned_abandonedLease current true)⟩
          | some observed =>
              obtain ⟨next, document⟩ := observed
              apply Effect.Ends.assume fun _ h => h.2 (next, document) rfl
              intro hadvanced
              have hless : pollsLeft next ≤ left := by
                rw [pollsLeft]
                rcases (show Advanced current next from hadvanced) with
                  habandoned | ⟨hnext, hmax⟩
                · rw [habandoned, if_pos rfl]
                  exact Nat.zero_le _
                · split
                  · exact Nat.zero_le _
                  · omega
              exact (ih next (some document) (by omega)).weaken (fun _ h => h.1.mono hless)
                (fun _ _ => id) fun _ _ => id

/-- What a wait promises that starts with a handle. -/
structure WaitsWithinLease (monitor : DeadlineMonitor) (handle : Handle)
    (wait : Wait Handle (Option (WaitResult Handle))) : Prop where
  /-- The loop ends. -/
  terminates : (wait (WaitWorld.start Handle)).1 ≠ .ok none
  bounded : (wait (WaitWorld.start Handle)).2.locals.length ≤
    (WaitableHandle.lease handle).maxPolls - (WaitableHandle.lease handle).polls
  live : ∀ observed ∈ (wait (WaitWorld.start Handle)).2.locals, Live observed
  sleeps : SleepsDecided monitor (wait (WaitWorld.start Handle)).2.history
  settled : ∀ result, (wait (WaitWorld.start Handle)).1 = .ok (some result) →
    Settled result.handle

theorem waitsWithinLease_of_attempts
    {attempt : Handle → Wait Handle (Option (Handle × Value))} (hattempt : Attempts monitor attempt)
    (handle : Handle) (record : Option Value) {fuel : Nat}
    (hfuel : (WaitableHandle.lease handle).maxPolls - (WaitableHandle.lease handle).polls < fuel) :
    WaitsWithinLease monitor handle
      (waitFrom environment monitor attempt fuel handle record) := by
  have hless : pollsLeft handle ≤
      (WaitableHandle.lease handle).maxPolls - (WaitableHandle.lease handle).polls := by
    rw [pollsLeft]
    split
    · exact Nat.zero_le _
    · exact Nat.le_refl _
  have hstart : Within monitor (pollsLeft handle) (pollsLeft handle) (WaitWorld.start Handle) := by
    constructor
    · exact (Nat.zero_add _).le
    · exact fun _ hhandle => absurd hhandle List.not_mem_nil
    · intro index delay answer hindex
      simp [WaitWorld.start] at hindex
  have hends : Effect.Ends (Within monitor (pollsLeft handle) (pollsLeft handle))
      (waitFrom environment monitor attempt fuel handle record) _ _ :=
    ends_waitFrom hattempt (pollsLeft handle) fuel handle record (by omega)
  obtain ⟨hreturned, hraised⟩ := hends (WaitWorld.start Handle) hstart
  cases hrun : waitFrom environment monitor attempt fuel handle record (WaitWorld.start Handle) with
  | mk result target =>
      have hwithin : Within monitor (pollsLeft handle) 0 target := by
        cases result with
        | ok value => exact (hreturned value target hrun).1
        | error error => exact hraised error target hrun
      constructor
      · rw [hrun]
        intro hnone
        cases (show result = .ok none from hnone)
        obtain ⟨-, stopped, hstopped, -⟩ := hreturned none target hrun
        cases hstopped
      · rw [hrun]
        exact hwithin.observed.trans hless
      · rw [hrun]
        exact hwithin.live
      · rw [hrun]
        exact hwithin.sleeps
      · rw [hrun]
        intro stopped hstopped
        cases (show result = .ok (some stopped) from hstopped)
        obtain ⟨-, other, hother, hsettled⟩ := hreturned (some stopped) target hrun
        cases hother
        exact hsettled

end Kept

/-- The four waits end within the lease of their handle, for every environment: after at most
one iteration more than there are polls left. -/
theorem waits_within_lease (environment : Environment WaitOp.Answer) (monitor : DeadlineMonitor)
    (task : TaskHandle) (job : JobHandle) (extra : Nat) :
    WaitsWithinLease monitor task
        (waitForTask environment monitor (task.maxPolls - task.polls + 1 + extra) task) ∧
      WaitsWithinLease monitor task
        (waitForTaskAsync environment monitor (task.maxPolls - task.polls + 1 + extra) task) ∧
      WaitsWithinLease monitor job
        (waitForJob environment monitor (job.maxPolls - job.polls + 1 + extra) job) ∧
      WaitsWithinLease monitor job
        (waitForJobAsync environment monitor (job.maxPolls - job.polls + 1 + extra) job) := by
  have htask : task.maxPolls - task.polls < task.maxPolls - task.polls + 1 + extra := by omega
  have hjob : job.maxPolls - job.polls < job.maxPolls - job.polls + 1 + extra := by omega
  refine ⟨?_, ?_, ?_, ?_⟩
  · exact waitsWithinLease_of_attempts
      (attempts_observeBounded observation_observeTask getTaskOperation) task none htask
  · exact waitsWithinLease_of_attempts
      (attempts_observeInTime observation_observeTask getTaskOperation) task none htask
  · exact waitsWithinLease_of_attempts
      (attempts_observeBounded observation_observeJob harvestOperation) job none hjob
  · exact waitsWithinLease_of_attempts
      (attempts_observeInTime observation_observeJob harvestOperation) job none hjob

end DataSluice.Catalog.Udata
