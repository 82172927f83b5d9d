/-
# The bulk executors

`BulkExecutor.stream` and `AsyncBulkExecutor.stream` are generators over one
progress record. They are modelled together as a partial step function: a phase
says where the generator is suspended, or which statement it runs next, and an
event supplies what the code cannot decide itself: the answer of the cancellation
source and of the deadline monitor, which tasks finished, how an item went, and
whether the consumer asks for the next receipt, closes the generator or cancels
the task.

A `CancelledError` reaches the asynchronous generator only while it awaits, so
`cancel` is an event of its awaiting phases alone. The sink is called when a
checkpoint is handed over; `storing`, `storingLast` and `storingFinal` await what
it returned. The tasks that finalise a closed or cancelled stream first drain what
is in flight, in dispatch order, and then hand the last checkpoint over; no other
step falls between the last drained item and that call, since the task that makes
the call is scheduled before any wake-up a later cancellation schedules. The tasks
that the stream makes for its own cleanup are its own: only the task that drives the
generator, and the tasks of the items, are cancelled from outside.

`dispatched`, `emitted` and `handed` record what the run did.
-/

import Mathlib.Logic.Function.Basic
import DataSluice.Lib.Transition
import DataSluice.Domain.Receipts

namespace DataSluice.Runtime

open DataSluice.Lib DataSluice.Domain

variable {redaction : Redaction}

/-! ## Plans -/

/-- The error of `_validate_plan`. -/
structure CatalogValidationError where
  message : String
  operation : String
  platform : String
  safeAction : String
  deriving DecidableEq

/-- `_platform_for` -/
def platformFor (plan : BulkPlan) : String :=
  match plan.items with
  | [] => "runtime"
  | item :: _ => item.platform.value

/-- `_duplicate_name` -/
def duplicateName (item : CatalogId) : String :=
  item.platform.value ++ "/" ++ item.resourceKind.value ++ "/" ++ item.value

/-- The names the loop of `_validate_plan` collects, with the identifiers seen. -/
def duplicateNames : List CatalogId → List CatalogId → List String
  | _, [] => []
  | seen, item :: items =>
      if item ∈ seen then duplicateName item :: duplicateNames seen items
      else duplicateNames (item :: seen) items

/-- The receipts of a checkpoint against the items they are for. -/
def validateTargets (plan : BulkPlan) :
    List (BulkItemReceipt redaction) → Except CatalogValidationError Unit
  | [] => .ok ()
  | item :: items =>
      if plan.items[item.index]? = some item.receipt.target then validateTargets plan items
      else .error
        { message := "Bulk checkpoint receipt index " ++ toString item.index ++
            " does not match its catalog ID."
          operation := plan.operation
          platform := platformFor plan
          safeAction :=
            "Use a checkpoint whose receipt target matches the original plan item." }

/-- `_validate_plan` -/
def validatePlan (plan : BulkPlan) (checkpoint : Option (BulkCheckpoint redaction)) :
    Except CatalogValidationError Unit :=
  if duplicateNames [] plan.items ≠ [] then .error
    { message := "Bulk plan contains duplicate catalog IDs: " ++
        ", ".intercalate (duplicateNames [] plan.items) ++ "."
      operation := plan.operation
      platform := platformFor plan
      safeAction := "Remove duplicate catalog IDs before dispatching the bulk plan." }
  else
    match checkpoint with
    | none => .ok ()
    | some checkpoint =>
        if checkpoint.plan ≠ plan then .error
          { message := "Bulk checkpoint does not belong to the supplied plan."
            operation := plan.operation
            platform := platformFor plan
            safeAction :=
              "Resume only with a checkpoint created for this exact bulk plan." }
        else validateTargets plan checkpoint.itemReceipts

/-- The names of a loop that starts with some identifiers seen. -/
theorem duplicateNames_eq_nil_iff (seen items : List CatalogId) :
    duplicateNames seen items = [] ↔ items.Nodup ∧ ∀ item ∈ items, item ∉ seen := by
  induction items generalizing seen with
  | nil => simp [duplicateNames]
  | cons item items ih =>
      by_cases hseen : item ∈ seen
      · simp [duplicateNames, hseen]
      · rw [duplicateNames, if_neg hseen, ih]
        simp only [List.nodup_cons, List.mem_cons, not_or, forall_eq_or_imp]
        constructor
        · rintro ⟨hnodup, hfresh⟩
          exact ⟨⟨fun hmem => (hfresh item hmem).1 rfl, hnodup⟩, hseen,
            fun other hmem => (hfresh other hmem).2⟩
        · rintro ⟨⟨hnotMem, hnodup⟩, -, hfresh⟩
          refine ⟨hnodup, fun other hmem => ⟨?_, hfresh other hmem⟩⟩
          rintro rfl
          exact hnotMem hmem

theorem validateTargets_eq_ok_iff (plan : BulkPlan) (items : List (BulkItemReceipt redaction)) :
    validateTargets plan items = .ok () ↔
      ∀ item ∈ items, plan.items[item.index]? = some item.receipt.target := by
  induction items with
  | nil => simp [validateTargets]
  | cons item items ih =>
      by_cases htarget : plan.items[item.index]? = some item.receipt.target
      · simp [validateTargets, htarget, ih]
      · simp [validateTargets, htarget]

/-- What `_validate_plan` accepts. -/
theorem validatePlan_eq_ok_iff (plan : BulkPlan) (checkpoint : Option (BulkCheckpoint redaction)) :
    validatePlan plan checkpoint = .ok () ↔
      plan.items.Nodup ∧ ∀ resumed ∈ checkpoint, resumed.plan = plan ∧
        ∀ item ∈ resumed.itemReceipts, plan.items[item.index]? = some item.receipt.target := by
  have hduplicates : duplicateNames [] plan.items = [] ↔ plan.items.Nodup := by
    simp [duplicateNames_eq_nil_iff]
  by_cases hnodup : plan.items.Nodup
  · have hnames := hduplicates.mpr hnodup
    cases checkpoint with
    | none => simp [validatePlan, hnames, hnodup]
    | some resumed =>
        by_cases hplan : resumed.plan = plan
        · simp [validatePlan, hnames, hnodup, hplan, validateTargets_eq_ok_iff]
        · simp [validatePlan, hnames, hplan]
  · have hnames : duplicateNames [] plan.items ≠ [] := fun h => hnodup (hduplicates.mp h)
    simp [validatePlan, hnames, hnodup]

/-! ## One item -/

/-- The two executors. -/
inductive ExecutorKind
  | sync
  | async
  deriving DecidableEq

/-- What one call of `execute_item` did. A `CancelledError` is not an `Exception`. -/
inductive ItemCall (redaction : Redaction)
  | returned (receipt : MutationReceipt redaction)
  | returnedOther
  | raisedBudgetExhausted
  | raised
  | raisedCancelled

/-- One run of `_execute_sync_item` or `_execute_async_item`: the item budget is
exhausted beforehand, or the call is made and the budget is looked at again. -/
inductive ItemRun (redaction : Redaction)
  | preflightExhausted
  | called (call : ItemCall redaction) (budgetExhausted : Bool)

/-- `_ItemResult`, with whether it holds a budget error. -/
structure ItemResult (redaction : Redaction) where
  receipt : MutationReceipt redaction
  budgetError : Bool := false

/-- The audit metadata of a failure receipt. -/
def failureMetadata (budgetExhausted : Bool) : List (Key × Value) :=
  (.text "bulk_failure", .bool true) ::
    if budgetExhausted then [(.text "budget_exhausted", .bool true)] else []

/-- The metadata of a failure receipt names no sensitive key. -/
theorem freezeAuditMetadata_failure (redaction : Redaction) (budgetExhausted : Bool) :
    freezeAuditMetadata redaction (.dict (failureMetadata budgetExhausted)) =
      .ok (.proxy (failureMetadata budgetExhausted)) := by
  have hfailure : isSensitiveRecordKey "bulk_failure" = false := by decide
  have hbudget : isSensitiveRecordKey "budget_exhausted" = false := by decide
  cases budgetExhausted
  · simp [freezeAuditMetadata, failureMetadata, validateRedactedMetadata,
      validateRedactedEntries, hfailure, freezeJson, freezeJsonObject, Except.map]
  · simp [freezeAuditMetadata, failureMetadata, validateRedactedMetadata,
      validateRedactedEntries, hfailure, hbudget, freezeJson, freezeJsonObject, Except.map]

/-- `_failure_receipt` -/
def failureReceipt (plan : BulkPlan) (item : CatalogId) (budgetExhausted : Bool) :
    MutationReceipt redaction where
  operation := plan.operation
  outcome := .failed
  target := item
  auditMetadata := .proxy (failureMetadata budgetExhausted)
  operation_ne_empty := plan.operation_ne_empty
  atomic_only_if := by simp
  audit_frozen := ⟨_, freezeAuditMetadata_failure redaction budgetExhausted⟩

/-- `_execute_sync_item` and `_execute_async_item`, with `_preflight_item` and
`_settle_item`; no result when a `CancelledError` leaves them. -/
def executeItem (plan : BulkPlan) (item : CatalogId) :
    ItemRun redaction → Option (ItemResult redaction)
  | .preflightExhausted => some ⟨failureReceipt plan item true, true⟩
  | .called (.returned receipt) budgetExhausted => some ⟨receipt, budgetExhausted⟩
  | .called .returnedOther _ => some ⟨failureReceipt plan item false, false⟩
  | .called .raisedBudgetExhausted _ => some ⟨failureReceipt plan item true, true⟩
  | .called .raised _ => some ⟨failureReceipt plan item false, false⟩
  | .called .raisedCancelled _ => none

/-- What the stream reads from a finished item: `future.result()` under
`except Exception`, or `_task_result`, which also catches the `CancelledError`. -/
def taskResult (kind : ExecutorKind) (plan : BulkPlan) (item : CatalogId)
    (run : ItemRun redaction) : Option (ItemResult redaction) :=
  match executeItem plan item run, kind with
  | some result, _ => some result
  | none, .async => some ⟨failureReceipt plan item false, false⟩
  | none, .sync => none

/-- A recorded receipt is the one the call returned, or a failure receipt for the item. -/
theorem taskResult_receipt {kind : ExecutorKind} {plan : BulkPlan} {item : CatalogId}
    {run : ItemRun redaction} {result : ItemResult redaction}
    (hresult : taskResult kind plan item run = some result) :
    (∃ budget, run = .called (.returned result.receipt) budget) ∨
      ∃ exhausted, result.receipt = failureReceipt plan item exhausted := by
  match run, kind with
  | .called (.returned receipt) budget, _ =>
      cases hresult
      exact .inl ⟨budget, rfl⟩
  | .preflightExhausted, _ | .called .raisedBudgetExhausted _, _ =>
      cases hresult
      exact .inr ⟨true, rfl⟩
  | .called .returnedOther _, _ | .called .raised _, _ | .called .raisedCancelled _, .async =>
      cases hresult
      exact .inr ⟨false, rfl⟩
  | .called .raisedCancelled _, .sync => cases hresult

/-! ## The state of a stream -/

/-- The fields of `BulkExecutionPolicy` that the executors read. -/
structure BulkExecutionPolicy where
  maxParallelism : Nat
  cancellationRequested : Bool := false
  checkpointRequired : Bool := true
  bounded : 1 ≤ maxParallelism ∧ maxParallelism ≤ 32

/-- One `stream` call of an executor, on a plan that `_validate_plan` accepted. -/
structure BulkRun (redaction : Redaction) where
  kind : ExecutorKind
  policy : BulkExecutionPolicy
  platformMaxParallelism : Nat
  plan : BulkPlan
  checkpoint : Option (BulkCheckpoint redaction)
  platform_bounded : 1 ≤ platformMaxParallelism ∧ platformMaxParallelism ≤ 32
  accepted : validatePlan plan checkpoint = .ok ()

/-- Why dispatching stopped. -/
inductive StopReason
  | cancelled
  | budgetExhausted
  deriving DecidableEq

/-- `_BulkProgress`, with whether an item held a budget error. The error of the run
budget is there exactly when the stop reason says so. -/
structure BulkProgress (redaction : Redaction) where
  completed : Nat → Option (MutationReceipt redaction)
  pending : List Nat
  stopReason : Option StopReason
  itemBudgetError : Bool := false
  dispatches : Nat := 0
  nextEmit : Nat := 0
  lastPersistedCount : Int := -1
  lastPersistedStopReason : Option StopReason := none

/-- The progress with the tasks in flight, and what the run did so far: the indices it
dispatched, the receipts it yielded and the checkpoints it handed to the sink. -/
structure BulkLedger (redaction : Redaction) extends BulkProgress redaction where
  inFlight : List Nat := []
  dispatched : List Nat := []
  emitted : List (BulkItemReceipt redaction) := []
  handed : List (BulkCheckpoint redaction) := []

/-- Where a `yield` returns to: the start of the loop, the loop over the finished
tasks that are left, the terminal summary, or the end of the generator. -/
inductive Resume
  | start
  | loop (done : List Nat)
  | finish
  | summary
  deriving DecidableEq

/-- How a stream ended. `raised` is an exception that no handler of the stream
expects. -/
inductive Ending
  | normal
  | cancelled
  | generatorExit
  | raised
  deriving DecidableEq

/-- Where the generator stands. -/
inductive BulkPhase (redaction : Redaction)
  | yielding (queue : List (BulkItemReceipt redaction)) (resume : Resume)
  | dispatching
  | waiting
  | collecting (done : List Nat)
  | storing (done : List Nat)
  | finishing
  | storingLast
  | /-- The `GeneratorExit` handler settles what is in flight. -/
    draining
  | /-- `_cancel_stream` waits for its cleanup task, a second time when `interrupted`. -/
    cleanup (interrupted : Bool)
  | storingFinal (ending : Ending) (interrupted : Bool)
  | ended (ending : Ending)

/-- A stream between two steps. -/
structure BulkState (redaction : Redaction) where
  ledger : BulkLedger redaction
  phase : BulkPhase redaction

/-- What the cancellation source and the deadline monitor of the run answer. -/
structure Probe where
  cancelRequested : Bool := false
  budgetExhausted : Bool := false

/-- One step of the stream or of its surroundings. -/
inductive BulkEvent (redaction : Redaction)
  | /-- One call of `_next_dispatchable`. -/
    dispatch (probe : Probe)
  | /-- The wait returns these tasks, in the order they are iterated in. -/
    wait (done : List Nat)
  | /-- The next finished task is recorded. -/
    record (item : ItemRun redaction) (probe : Probe)
  | /-- What the sink returned has been awaited. -/
    stored
  | /-- `_finish_progress` -/
    finish (probe : Probe)
  | /-- The consumer asks for the next value. -/
    next
  | /-- The consumer closes or abandons the generator. -/
    close
  | /-- The next task in flight settles while the stream is finalised. -/
    drain (item : ItemRun redaction)
  | /-- A `CancelledError` reaches the generator. -/
    cancel

namespace BulkRun

variable (run : BulkRun redaction)

/-- `_parallelism` -/
def parallelism : Nat := min (min run.policy.maxParallelism run.platformMaxParallelism) 32

/-- How many items the plan has. -/
def total : Nat := run.plan.items.length

/-- The receipts of the checkpoint that the run resumes from. -/
def resumedReceipts : List (BulkItemReceipt redaction) :=
  match run.checkpoint with
  | none => []
  | some checkpoint => checkpoint.itemReceipts

/-- The `completed` dictionary that the run starts with. -/
def resumed (index : Nat) : Option (MutationReceipt redaction) :=
  (run.resumedReceipts.find? fun item => item.index = index).map BulkItemReceipt.receipt

/-- `_stop_state` -/
def stopState (probe : Probe) (checkBudget : Bool) : Option StopReason :=
  if run.policy.cancellationRequested || probe.cancelRequested then some .cancelled
  else if checkBudget && probe.budgetExhausted then some .budgetExhausted
  else none

/-- `_refresh_stop_state` -/
def refreshStopState (ledger : BulkLedger redaction) (probe : Probe) (checkBudget : Bool) :
    BulkLedger redaction :=
  match ledger.stopReason with
  | none => { ledger with stopReason := run.stopState probe checkBudget }
  | some _ => ledger

/-! ## Checkpoints -/

end BulkRun

/-- The completed receipts by index: `completed[index] for index in sorted(completed)`,
for a dictionary whose keys are below `total`. -/
def completedReceipts (total : Nat) (completed : Nat → Option (MutationReceipt redaction)) :
    List (BulkItemReceipt redaction) :=
  (List.range total).filterMap fun index => (completed index).map (BulkItemReceipt.mk index)

theorem mem_completedReceipts {total : Nat}
    {completed : Nat → Option (MutationReceipt redaction)} {item : BulkItemReceipt redaction} :
    item ∈ completedReceipts total completed ↔
      item.index < total ∧ completed item.index = some item.receipt := by
  simp only [completedReceipts, List.mem_filterMap, List.mem_range, Option.map_eq_some_iff]
  constructor
  · rintro ⟨index, hindex, receipt, hreceipt, rfl⟩
    exact ⟨hindex, hreceipt⟩
  · rintro ⟨hindex, hreceipt⟩
    exact ⟨item.index, hindex, item.receipt, hreceipt, rfl⟩

theorem index_completedReceipts (total : Nat)
    (completed : Nat → Option (MutationReceipt redaction)) :
    (completedReceipts total completed).map BulkItemReceipt.index =
      (List.range total).filter fun index => (completed index).isSome := by
  rw [completedReceipts]
  induction List.range total with
  | nil => rfl
  | cons index indices ih =>
      cases hcompleted : completed index with
      | none => simpa [List.filterMap_cons, hcompleted] using ih
      | some receipt => simpa [List.filterMap_cons, hcompleted] using ih

/-- The receipts of a run are in the order that a checkpoint asks for. -/
theorem indicesOk_completedReceipts (total : Nat)
    (completed : Nat → Option (MutationReceipt redaction)) :
    IndicesOk total ((completedReceipts total completed).map BulkItemReceipt.index) := by
  rw [index_completedReceipts]
  refine ⟨?_, ?_, ?_⟩
  · exact (List.pairwise_lt_range.imp Nat.le_of_lt).filter _
  · exact List.nodup_range.filter _
  · intro index hindex
    exact List.mem_range.mp (List.mem_filter.mp hindex).1

namespace BulkRun

variable (run : BulkRun redaction)

/-- `_build_checkpoint`, for a policy that requires checkpoints. -/
def buildCheckpoint (completed : Nat → Option (MutationReceipt redaction))
    (cancellationRequested : Bool) : BulkCheckpoint redaction where
  plan := run.plan
  itemReceipts := completedReceipts run.total completed
  cancellationRequested := cancellationRequested
  resumptionCursor :=
    match run.checkpoint with
    | none => run.plan.resumptionCursor
    | some checkpoint => checkpoint.resumptionCursor
  indices_ok := indicesOk_completedReceipts run.total completed

/-- `_persist` up to the call of the sink. -/
def persist (ledger : BulkLedger redaction) (cancellationRequested : Bool) :
    BulkLedger redaction :=
  if run.policy.checkpointRequired then
    { ledger with
      handed := ledger.handed ++ [run.buildCheckpoint ledger.completed cancellationRequested] }
  else ledger

/-! ## The statements of the stream -/

/-- The head of the `while` loop. -/
def enterLoop (ledger : BulkLedger redaction) : BulkState redaction :=
  if ledger.pending = [] ∧ ledger.inFlight = [] then ⟨ledger, .finishing⟩
  else ⟨ledger, .dispatching⟩

/-- The head of the `for` loop over the finished tasks. -/
def collect (ledger : BulkLedger redaction) (done : List Nat) : BulkState redaction :=
  if done = [] then enterLoop ledger else ⟨ledger, .collecting done⟩

/-- What follows a `for` loop over ordered receipts. The summary is yielded at once. -/
def resume (ledger : BulkLedger redaction) : Resume → BulkState redaction
  | .start => enterLoop ledger
  | .loop done => collect ledger done
  | .finish => ⟨ledger, .yielding [] .summary⟩
  | .summary => ⟨ledger, .ended .normal⟩

/-- Yield the next of the ordered receipts, or leave their loop. -/
def yieldNext (ledger : BulkLedger redaction) (queue : List (BulkItemReceipt redaction))
    (next : Resume) : BulkState redaction :=
  match queue with
  | [] => resume ledger next
  | item :: queue =>
      ⟨{ ledger with emitted := ledger.emitted ++ [item] }, .yielding queue next⟩

end BulkRun

/-- The `while` loop of `ordered_receipts` from an index, over at most `fuel` indices:
none from the length of the plan on is completed. -/
def orderedFrom (completed : Nat → Option (MutationReceipt redaction)) :
    Nat → Nat → List (BulkItemReceipt redaction)
  | 0, _ => []
  | fuel + 1, index =>
      match completed index with
      | none => []
      | some receipt => ⟨index, receipt⟩ :: orderedFrom completed fuel (index + 1)

namespace BulkRun

variable (run : BulkRun redaction)

/-- `ordered_receipts` -/
def orderedReceipts (ledger : BulkLedger redaction) : List (BulkItemReceipt redaction) :=
  orderedFrom ledger.completed (run.total - ledger.nextEmit) ledger.nextEmit

/-- A `for` loop over `ordered_receipts`, which moves the index on before the first
receipt is yielded. -/
def emit (ledger : BulkLedger redaction) (next : Resume) : BulkState redaction :=
  yieldNext
    { ledger with nextEmit := ledger.nextEmit + (run.orderedReceipts ledger).length }
    (run.orderedReceipts ledger) next

/-- `_next_dispatchable` and the statements around its call. -/
def dispatchAvailable (ledger : BulkLedger redaction) (probe : Probe) : BulkState redaction :=
  match ledger.pending with
  | [] => leave ledger
  | index :: pending =>
      if run.parallelism ≤ ledger.inFlight.length ∨ ledger.stopReason ≠ none then leave ledger
      else
        match run.stopState probe true with
        | some reason => leave { ledger with stopReason := some reason }
        | none =>
            ⟨{ ledger with
                pending := pending
                inFlight := ledger.inFlight ++ [index]
                dispatches := ledger.dispatches + 1
                dispatched := ledger.dispatched ++ [index] }, .dispatching⟩
where
  /-- No further item: wait for the tasks in flight, or break out of the loop. -/
  leave (ledger : BulkLedger redaction) : BulkState redaction :=
    if ledger.inFlight = [] then ⟨ledger, .finishing⟩ else ⟨ledger, .waiting⟩

/-- `_record_completed` without the look at the stop state. -/
def complete (ledger : BulkLedger redaction) (index : Nat) (result : ItemResult redaction) :
    BulkLedger redaction :=
  { ledger with
    completed := Function.update ledger.completed index (some result.receipt)
    inFlight := ledger.inFlight.erase index
    itemBudgetError := ledger.itemBudgetError || result.budgetError }

/-- The end of `_record_result`, and the receipts that are yielded after it. -/
def afterRecord (ledger : BulkLedger redaction) (done : List Nat) : BulkState redaction :=
  run.emit
    { ledger with
      lastPersistedCount := (completedReceipts run.total ledger.completed).length
      lastPersistedStopReason := ledger.stopReason } (.loop done)

/-- `_record_sync_result` and `_record_result` for the task of one index. -/
def recordResult (ledger : BulkLedger redaction) (index : Nat) (done : List Nat)
    (result : ItemResult redaction) (probe : Probe) : BulkState redaction :=
  let recorded := run.refreshStopState (complete ledger index result) probe
    (!ledger.pending.isEmpty)
  let persisted := run.persist recorded (recorded.stopReason = some .cancelled)
  if run.policy.checkpointRequired && run.kind = .async then ⟨persisted, .storing done⟩
  else run.afterRecord persisted done

/-- `_finish_progress`, with `_finish_stop_state`. -/
def finishProgress (ledger : BulkLedger redaction) (probe : Probe) : BulkState redaction :=
  let refreshed := run.refreshStopState ledger probe false
  if refreshed.stopReason ≠ none ∧
      (refreshed.lastPersistedCount ≠ (completedReceipts run.total refreshed.completed).length ∨
        refreshed.lastPersistedStopReason ≠ refreshed.stopReason) then
    let persisted := run.persist refreshed (refreshed.stopReason = some .cancelled)
    if run.policy.checkpointRequired && run.kind = .async then ⟨persisted, .storingLast⟩
    else run.emit persisted .finish
  else run.emit refreshed .finish

/-- The finaliser of a closed or cancelled stream: with nothing left in flight the
last checkpoint is handed over, else the stream stays in `phase`. -/
def finalize (ledger : BulkLedger redaction) (phase : BulkPhase redaction) (ending : Ending)
    (interrupted : Bool) : BulkState redaction :=
  if ledger.inFlight = [] then
    match run.kind with
    | .sync => ⟨run.persist ledger true, .ended ending⟩
    | .async => ⟨run.persist ledger true, .storingFinal ending interrupted⟩
  else ⟨ledger, phase⟩

/-- One task that the finaliser settles: the next in dispatch order. -/
def drainNext (ledger : BulkLedger redaction) (item : ItemRun redaction)
    (phase : BulkPhase redaction) (ending : Ending) (interrupted : Bool) :
    Option (BulkState redaction) := do
  let index ← ledger.inFlight.head?
  let target ← run.plan.items[index]?
  match taskResult run.kind run.plan target item with
  | none => some ⟨{ ledger with inFlight := ledger.inFlight.erase index }, .ended .raised⟩
  | some result => some (run.finalize (complete ledger index result) phase ending interrupted)

/-- A `CancelledError` in an awaiting phase. While the `GeneratorExit` handler drains it
leaves the handler, and while the cleanup task is awaited a second time it leaves
`_cancel_stream`; both before the last checkpoint is handed over. -/
def cancelAt (ledger : BulkLedger redaction) : BulkPhase redaction → Option (BulkState redaction)
  | .waiting => some (run.finalize ledger (.cleanup false) .cancelled false)
  | .storing _ => some (run.finalize ledger (.cleanup false) .cancelled false)
  | .storingLast => some ⟨ledger, .ended .cancelled⟩
  | .draining => some ⟨ledger, .ended .cancelled⟩
  | .cleanup false => some ⟨ledger, .cleanup true⟩
  | .cleanup true => some ⟨ledger, .ended .cancelled⟩
  | .storingFinal _ false => some ⟨ledger, .storingFinal .cancelled true⟩
  | .storingFinal _ true => some ⟨ledger, .ended .cancelled⟩
  | _ => none

/-- One step of the stream. -/
def step (state : BulkState redaction) (event : BulkEvent redaction) :
    Option (BulkState redaction) :=
  match event, state.phase with
  | .next, .yielding queue next => some (yieldNext state.ledger queue next)
  | .close, .yielding _ (.loop _) =>
      some (run.finalize state.ledger .draining .generatorExit false)
  | .close, .yielding _ _ => some ⟨state.ledger, .ended .generatorExit⟩
  | .dispatch probe, .dispatching => some (run.dispatchAvailable state.ledger probe)
  | .wait done, .waiting =>
      if done ≠ [] ∧ done.Nodup ∧ done ⊆ state.ledger.inFlight then
        some (collect state.ledger done)
      else none
  | .record item probe, .collecting (index :: done) => do
      let target ← run.plan.items[index]?
      match taskResult run.kind run.plan target item with
      | none =>
          some ⟨{ state.ledger with inFlight := state.ledger.inFlight.erase index },
            .ended .raised⟩
      | some result => some (run.recordResult state.ledger index done result probe)
  | .stored, .storing done => some (run.afterRecord state.ledger done)
  | .stored, .storingLast => some (run.emit state.ledger .finish)
  | .stored, .storingFinal ending _ => some ⟨state.ledger, .ended ending⟩
  | .finish probe, .finishing => some (run.finishProgress state.ledger probe)
  | .drain item, .draining => run.drainNext state.ledger item .draining .generatorExit false
  | .drain item, .cleanup interrupted =>
      run.drainNext state.ledger item (.cleanup interrupted) .cancelled interrupted
  | .cancel, phase =>
      match run.kind with
      | .sync => none
      | .async => run.cancelAt state.ledger phase
  | _, _ => none

/-- `_bulk_progress` -/
def initialLedger (probe : Probe) : BulkLedger redaction where
  completed := run.resumed
  pending := (List.range run.total).filter fun index => (run.resumed index).isNone
  stopReason := run.stopState probe
    (!((List.range run.total).filter fun index => (run.resumed index).isNone).isEmpty)

/-- The generator after its first statements: the receipts of the checkpoint come
first. -/
def start (probe : Probe) : BulkState redaction := run.emit (run.initialLedger probe) .start

/-- The runs of one `stream` call. -/
def system : System (BulkState redaction) (BulkEvent redaction) where
  init state := ∃ probe, state = run.start probe
  step := run.step

end BulkRun

end DataSluice.Runtime
