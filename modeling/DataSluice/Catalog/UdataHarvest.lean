/-
# Bulk runs over harvest sources

`run_bulk` of the harvest services authorizes one plan, hands it to a bulk executor, and folds
what the executor yields into one result. An item of the plan is one harvest source: its
mutation is dispatched under the confirmation of the plan, and settles into a receipt without
raising, as far as its exceptions are those that are settled.

The executor is the one of `BulkRun`. A task of an item is a whole run of `_bulk_item` in an
environment of its own: what other tasks do meanwhile shows in the answers. A run remembers
what happened in each of its tasks, which tells the requests that were sent.
-/

import DataSluice.Catalog.UdataMutation
import DataSluice.Runtime.BulkResume
import DataSluice.Runtime.BulkSummary

namespace DataSluice.Catalog.Udata

open DataSluice.Lib DataSluice.Lib.Url DataSluice.Domain DataSluice.Runtime
open DataSluice.Runtime.Transport

/-! ## Plans -/

/-- `BULK_MUTATIONS` -/
def BulkAction.mutation : BulkAction → String
  | .deleteSource => "deleted"
  | .unscheduleSource => "unscheduled"
  | .runSource => "ran"

/-- The method of the request of an action. -/
def BulkAction.method : BulkAction → Text
  | .deleteSource | .unscheduleSource => "DELETE".toList
  | .runSource => "POST".toList

/-- `_BULK_REQUESTS` -/
def BulkAction.request (action : BulkAction) (sourceId : Text) : Except Raised MutationRequest := do
  let path ← action.path sourceId
  return { method := action.method, path := path }

theorem matchesValueRe_harvestSource : matchesValueRe "harvest-source" = true := by
  decide

/-- `HARVEST_SOURCE_KIND` -/
def harvestSourceKind : ResourceKind where
  value := "harvest-source"
  valid := matchesValueRe_harvestSource

theorem harvestOperation_ne : harvestOperation ≠ "" := by decide

theorem HarvestBulkTargets.ofList_ne (targets : HarvestBulkTargets) {sourceId : Text}
    (hsource : sourceId ∈ targets.sourceIds) : String.ofList sourceId ≠ "" :=
  fun hempty => targets.ids_ne sourceId hsource (String.ofList_eq_empty_iff.mp hempty)

/-- The identifier of a harvest source in a plan. -/
def sourceItem (sourceId : Text) (nonempty : String.ofList sourceId ≠ "") : CatalogId where
  platform := udataPlatform
  resourceKind := harvestSourceKind
  value := .ofList sourceId
  nonempty := nonempty

/-- `bulk_plan`: nothing of a plan tells the action that it is for. -/
def bulkPlan (_action : BulkAction) (targets : HarvestBulkTargets) (preview : Bool) :
    BulkPlan where
  operation := harvestOperation
  items := targets.sourceIds.attach.map fun sourceId =>
    sourceItem sourceId.1 (targets.ofList_ne sourceId.2)
  preview := preview
  operation_ne_empty := harvestOperation_ne

/-- An item of a plan is the source of its index. -/
theorem getElem?_bulkPlan {targets : HarvestBulkTargets} {index : Nat} {sourceId : Text}
    (hsource : targets.sourceIds[index]? = some sourceId) (action : BulkAction) (preview : Bool) :
    ∃ nonempty, (bulkPlan action targets preview).items[index]? =
      some (sourceItem sourceId nonempty) := by
  have hvalues := congrArg (·[index]?) (List.attach_map_subtype_val targets.sourceIds)
  simp only [List.getElem?_map, hsource, Option.map_eq_some_iff] at hvalues
  obtain ⟨member, hmember, rfl⟩ := hvalues
  refine ⟨targets.ofList_ne member.2, ?_⟩
  rw [bulkPlan, List.getElem?_map, hmember]
  rfl

/-! ## Items -/

theorem harvestOperation_some_ne : some harvestOperation ≠ some "" := by decide

theorem some_ne_some_nil {targetId : Text} (hne : targetId ≠ []) : some targetId ≠ some [] :=
  fun hnil => hne (Option.some.inj hnil)

/-- `_item_policy` -/
def itemPolicy (action : BulkAction) (sourceId : Text) (policy : Option MutationPolicy) :
    Except Raised MutationPolicy :=
  match policy.filter fun policy => policy.confirmation.any (·.confirmed) with
  | none =>
      .error
        { errorClass := .validation
          message := "Bulk items require a confirmed plan-level policy bound to this action."
          operation := some harvestOperation
          platform := some "udata"
          capabilityState := some "forbidden"
          safeAction := some
            "Confirm the plan against its previewed confirmation target before running it." }
  | some policy =>
      if hempty : sourceId = [] then
        .error (.valueError
          "Mutation confirmation target must be a non-empty string when supplied.")
      else
        .ok
          { destructive := action.destructive
            confirmation := some
              { confirmed := true
                operation := some harvestOperation
                target := some sourceId
                operation_ne := harvestOperation_some_ne
                target_ne := some_ne_some_nil hempty }
            concurrency := policy.concurrency
            idempotency := policy.idempotency
            dryRun := ⟨false⟩ }

/-- An item has the idempotency of its plan. -/
theorem idempotency_of_itemPolicy {action : BulkAction} {sourceId : Text}
    {policy : Option MutationPolicy} {own : MutationPolicy}
    (hpolicy : itemPolicy action sourceId policy = .ok own) :
    policy.map MutationPolicy.idempotency = some own.idempotency := by
  unfold itemPolicy at hpolicy
  cases hfilter : policy.filter fun policy => policy.confirmation.any (·.confirmed) with
  | none => simp [hfilter] at hpolicy
  | some given =>
      simp only [hfilter] at hpolicy
      split at hpolicy
      · cases hpolicy
      · cases hpolicy
        rw [(Option.filter_eq_some_iff.mp hfilter).1]
        rfl

/-- The mutation of a plan or of an item: `_plan_receipt` makes its receipts. -/
def bulkMutation (action : BulkAction) (target : Text) (policy : Option MutationPolicy) :
    CatalogMutation where
  kind := harvestSourceKind
  target := target
  policy := policy
  mutation := action.mutation
  operation := harvestOperation
  destructive := action.destructive

variable (context : ReceiptContext) {Stream : Type}

/-- `HarvestMutationResult` -/
structure HarvestMutationResult where
  receipt : context.Receipt
  record : Option Value
  handle : Option JobHandle := none

section Item

variable (environment : CallEnvironment Stream) (client : UDataClient) (action : BulkAction)
  (permissions : Option MutationPermissions) (policy : Option MutationPolicy)

/-- `_plan_receipt` of an item -/
def planReceipt (target : Text) (outcome : Outcome) (status : Value) :
    Except Raised context.Receipt :=
  context.receipt (bulkMutation action target policy) target outcome status

/-- `_authorize_plan` -/
def authorizePlan {Locals : Type} (settles : ErrorClass → Bool) (targets : HarvestBulkTargets) :
    context.Settling Stream Locals Unit :=
  let target := bulkTarget context.digest action targets.sourceIds
  context.settling settles
    (fun error => planReceipt context action policy target .rejected (errorStatus error none))
    (context.unreceipted do
      Effect.ofExcept (enforceMutationPolicy harvestOperation target policy action.destructive)
      let credential ← refreshedCredential environment
      let _ ← Effect.ofExcept
        (context.requireMutationPermission credential harvestOperation permissions true))

/-- The `try` statement of `_bulk_item`: the receipt of the mutation, or of its failure. -/
def settleItem {Locals : Type} (settles : ErrorClass → Bool) (sourceId : Text)
    (dispatch : MutationRequest → CallEffect Stream Locals CallResult) :
    context.Settling Stream Locals context.Receipt :=
  Effect.tryExcept
    (do
      let own ← context.unreceipted (Effect.ofExcept (itemPolicy action sourceId policy))
      let result ← context.runMutation settles
        (fun receipt record => .ok (HarvestMutationResult.mk receipt record none))
        (bulkMutation action sourceId (some own)) (action.request sourceId) dispatch none
      return result.receipt)
    fun failure =>
      if settles failure.error.errorClass = true then
        match failure.receipt with
        | some receipt => pure receipt
        | none => context.unreceipted
            (Effect.ofExcept (planReceipt context action policy sourceId .failed (.int 0)))
      else Effect.raise failure

/-- `_bulk_item` -/
def bulkItem (sourceId : Text) : context.Settling Stream RequestAttempt context.Receipt :=
  settleItem context action policy settlementErrors sourceId fun request => do
    let credential ← refreshedCredential environment
    datasetMutate context (datasetCall environment client) credential permissions policy
      harvestOperation request true

/-- `_bulk_item` of the asynchronous service, which reads the credential beforehand. -/
def bulkItemAsync (sourceId : Text) : context.Settling Stream AsyncAttempt context.Receipt := do
  let credential ← context.unreceipted (refreshedCredential environment)
  settleItem context action policy asyncSettlementErrors sourceId fun request =>
    datasetMutate context (datasetCallAsync environment client) credential permissions policy
      harvestOperation request true

end Item

/-! ## What an item sends -/

section Sends

variable {context} {environment : CallEnvironment Stream} {client : UDataClient}
  {action : BulkAction} {permissions : Option MutationPermissions}
  {policy : Option MutationPolicy} {sourceId : Text}

/-- A request of the action for the source was sent. -/
def SentItem (client : UDataClient) (action : BulkAction) (sourceId : Text)
    (history : CallHistory Stream) : Prop :=
  ∃ path, action.path sourceId = .ok path ∧ ∃ dispatched ∈ dispatches history,
    Addressed action.method (client.origin ++ path) dispatched.request

/-- The receipt names the source as receipts do, and reports a success only for a request that
was sent. -/
structure ItemReceipt (client : UDataClient) (action : BulkAction) (sourceId : Text)
    (receipt : context.Receipt) (history : CallHistory Stream) : Prop where
  target : receipt.target = context.safeTarget harvestSourceKind sourceId
  sent : receipt.outcome = .succeeded → SentItem client action sourceId history

/-- The receipt of an exception names the source and reports no success. -/
def Unsuccessful (sourceId : Text) (failure : context.Error) : Prop :=
  ∀ receipt ∈ failure.receipt,
    receipt.target = context.safeTarget harvestSourceKind sourceId ∧ receipt.outcome ≠ .succeeded

theorem unsuccessful_settled {settles : ErrorClass → Bool}
    {build : Raised → Except Raised context.Receipt} (error : Raised)
    (hbuild : ∀ receipt, build error = .ok receipt →
      receipt.target = context.safeTarget harvestSourceKind sourceId ∧
        receipt.outcome ≠ .succeeded) :
    Unsuccessful sourceId (context.settled settles build { error := error }) := by
  intro receipt hreceipt
  rcases context.receipt_settled hreceipt with hbuilt | hbefore
  · exact hbuild receipt hbuilt
  · cases hbefore

/-- The receipt that `_failed` attaches reports no success. -/
theorem unsuccessful_failureReceipt {settles : ErrorClass → Bool} (own : Option MutationPolicy)
    (response : Option RuntimeResponse) (error : Raised) :
    Unsuccessful sourceId (context.settled settles
      (context.failureReceipt (bulkMutation action sourceId own) response) { error := error }) := by
  apply unsuccessful_settled
  intro receipt hreceipt
  obtain ⟨htarget, houtcome⟩ := context.receipt_fields hreceipt
  rw [houtcome]
  exact ⟨htarget, mutationOutcome_ne error response true⟩

/-- An item whose dispatch sends the request of the action settles with such a receipt. -/
theorem ends_settleItem {Locals : Type} {settles : ErrorClass → Bool}
    {P : CallWorld Stream Locals → Prop}
    {dispatch : MutationRequest → CallEffect Stream Locals CallResult}
    (hdispatch : ∀ prepared idempotency, action.request sourceId = .ok prepared →
      policy.map MutationPolicy.idempotency = some idempotency →
      idempotency.allowsRetry = false → Effect.Ends P (dispatch prepared)
        (fun _ world => SentItem client action sourceId world.history) fun _ _ => True) :
    Effect.Ends P (settleItem context action policy settles sourceId dispatch)
      (fun receipt world => ItemReceipt client action sourceId receipt world.history)
      fun _ _ => True := by
  apply Effect.Ends.tryExcept (F := fun failure _ => Unsuccessful sourceId failure)
  · apply Effect.Ends.bind (R := fun own world => itemPolicy action sourceId policy = .ok own ∧
      P world)
    · apply Effect.Ends.mapError
      apply Effect.Ends.ofExcept
      · exact fun own hown world hworld => ⟨hown, hworld⟩
      · exact fun error _ world _ receipt hreceipt => by cases hreceipt
    intro own
    apply Effect.Ends.assume fun _ hworld => hworld.1
    intro hown
    apply Effect.Ends.bind (R := fun result world =>
      ItemReceipt client action sourceId result.receipt world.history)
    · apply context.ends_runMutation
        (R := fun _ world => SentItem client action sourceId world.history) (F := fun _ _ => True)
      · intro error world _ _
        apply unsuccessful_settled
        intro receipt hreceipt
        obtain ⟨htarget, houtcome⟩ := context.receipt_fields hreceipt
        rw [houtcome]
        exact ⟨htarget, Outcome.noConfusion⟩
      · exact fun error world _ _ => unsuccessful_failureReceipt _ _ error
      · intro prepared hprepared haccepted
        exact (hdispatch prepared own.idempotency hprepared (idempotency_of_itemPolicy hown)
          (allowsRetry_of_enforceMutationPolicy haccepted)).weaken (fun _ hworld => hworld.2)
            (fun _ _ => id) fun _ _ => id
      · exact fun error world _ => unsuccessful_failureReceipt _ _ error
      · exact fun result error world _ _ => unsuccessful_failureReceipt _ _ error
      · intro result value world hsent hvalue
        obtain ⟨receipt, record, htarget, -, hbuilt⟩ := context.succeeded_eq_ok hvalue
        cases hbuilt
        exact ⟨htarget, fun _ => hsent⟩
    · exact fun result => .pure fun _ => id
  · intro failure
    apply Effect.Ends.ite
    · intro _
      cases hreceipt : failure.receipt with
      | some receipt =>
          apply Effect.Ends.pure
          intro world hworld
          obtain ⟨htarget, houtcome⟩ := hworld receipt hreceipt
          exact ⟨htarget, fun hsucceeded => absurd hsucceeded houtcome⟩
      | none =>
          apply Effect.Ends.mapError
          apply Effect.Ends.ofExcept
          · intro receipt hbuilt world _
            obtain ⟨htarget, houtcome⟩ := context.receipt_fields hbuilt
            refine ⟨htarget, fun hsucceeded => ?_⟩
            rw [houtcome] at hsucceeded
            cases hsucceeded
          · exact fun _ _ _ _ => trivial
    · exact fun _ => .raise fun _ _ => trivial

/-- The call of a mutation sends the request of the action. -/
theorem ends_datasetMutate {Locals : Type}
    {program : DatasetCall Stream → CallEffect Stream Locals CallResult}
    (hprogram : ∀ call : DatasetCall Stream, (datasetRetryIdempotency call.formBody
      call.idempotencyPolicy call.method call.files).allowsRetry = false →
      Effect.Ends Unsent (program call)
        (fun result world => SentFor client call result world.history) fun _ _ => True)
    {prepared : MutationRequest} {idempotency : IdempotencyPolicy}
    (hprepared : action.request sourceId = .ok prepared)
    (hpolicy : policy.map MutationPolicy.idempotency = some idempotency)
    (hrefused : idempotency.allowsRetry = false) (credential : Option Credential) :
    Effect.Ends Unsent
      (datasetMutate context program credential permissions policy harvestOperation prepared true)
      (fun _ world => SentItem client action sourceId world.history) fun _ _ => True := by
  have hpath : ∃ path, action.path sourceId = .ok path ∧
      prepared = { method := action.method, path := path } := by
    unfold BulkAction.request at hprepared
    cases hpath : action.path sourceId with
    | error error =>
        rw [hpath] at hprepared
        cases hprepared
    | ok path =>
        rw [hpath] at hprepared
        cases hprepared
        exact ⟨path, rfl, rfl⟩
  obtain ⟨path, hpath, rfl⟩ := hpath
  apply Effect.Ends.bind (R := fun _ => Unsent)
  · exact .ofExcept (fun _ _ _ => id) fun _ _ _ _ => trivial
  intro resolved
  apply (hprogram _ ?_).weaken (fun _ => id)
  · rintro result world ⟨dispatched, hdispatches, haddressed, -⟩
    exact ⟨path, hpath, dispatched, hdispatches ▸ List.mem_singleton_self _, haddressed⟩
  · exact fun _ _ => id
  · simp [datasetRetryIdempotency, datasetIdempotency, mutationCall, hpolicy, hrefused]

/-- An item settles with a receipt that names its source and reports what was sent. -/
theorem ends_bulkItem (environment : CallEnvironment Stream) (client : UDataClient)
    (action : BulkAction) (permissions : Option MutationPermissions)
    (policy : Option MutationPolicy) (sourceId : Text) :
    Effect.Ends Unsent
      (bulkItem context environment client action permissions policy sourceId)
      (fun receipt world => ItemReceipt client action sourceId receipt world.history)
      fun _ _ => True := by
  apply ends_settleItem
  intro prepared idempotency hprepared hpolicy hrefused
  apply Effect.Ends.bind (R := fun _ => Unsent)
  · exact ((Effect.keeps_iff_agree.mpr
      (stable_unsent.quiet environment .refreshedCredential rfl)).ends).weaken (fun _ => id)
      (fun _ _ => id) fun _ _ _ => trivial
  · intro credential
    exact ends_datasetMutate (sends_datasetCall environment client) hprepared hpolicy hrefused
      credential

/-- The same of the asynchronous service. -/
theorem ends_bulkItemAsync (environment : CallEnvironment Stream) (client : UDataClient)
    (action : BulkAction) (permissions : Option MutationPermissions)
    (policy : Option MutationPolicy) (sourceId : Text) :
    Effect.Ends Unsent
      (bulkItemAsync context environment client action permissions policy sourceId)
      (fun receipt world => ItemReceipt client action sourceId receipt world.history)
      fun _ _ => True := by
  apply Effect.Ends.bind (R := fun _ => Unsent)
  · apply Effect.Ends.mapError
    exact ((Effect.keeps_iff_agree.mpr
      (stable_unsent.quiet environment .refreshedCredential rfl)).ends).weaken (fun _ => id)
      (fun _ _ => id) fun _ _ _ => trivial
  · intro credential
    apply ends_settleItem
    intro prepared idempotency hprepared hpolicy hrefused
    exact ends_datasetMutate (sends_datasetCallAsync environment client) hprepared hpolicy
      hrefused credential

end Sends

/-! ## Runs -/

/-- `_MAX_BULK_PARALLELISM` -/
def maxBulkParallelism : Nat := 8

theorem maxBulkParallelism_bounded : 1 ≤ maxBulkParallelism ∧ maxBulkParallelism ≤ 32 := by
  decide

/-- What a service of the given kind settles. -/
def settlementErrorsOf : ExecutorKind → ErrorClass → Bool
  | .sync => settlementErrors
  | .async => asyncSettlementErrors

/-- A call of `run_bulk` whose plan was authorized and accepted by the executor. -/
structure HarvestRun (Stream : Type) where
  kind : ExecutorKind
  client : UDataClient
  action : BulkAction
  targets : HarvestBulkTargets
  permissions : Option MutationPermissions
  policy : Option MutationPolicy
  executionPolicy : BulkExecutionPolicy
  checkpoint : Option (BulkCheckpoint context.redaction.toRedaction)
  authorized : ∃ (environment : CallEnvironment Stream) (world : CallWorld Stream Unit),
    (authorizePlan context environment action permissions policy (settlementErrorsOf kind)
      targets world).1 = .ok ()
  accepted : validatePlan (bulkPlan action targets false) checkpoint = .ok ()

/-- What the task of an item does. -/
inductive ItemTask (Stream : Type)
  | /-- The budget of the item is exhausted beforehand. -/
    preflightExhausted
  | /-- An asynchronous task is cancelled before its first statement. -/
    cancelledEarly
  | /-- The item is run, and its budget looked at again. -/
    called (environment : CallEnvironment Stream) (budgetExhausted : Bool)

/-- The task can happen to an executor of the kind. -/
def ItemTask.possible (kind : ExecutorKind) : ItemTask Stream → Bool
  | .cancelledEarly => decide (kind = .async)
  | _ => true

/-- One step of a run or of its surroundings. -/
inductive HarvestEvent (redaction : Redaction) (Stream : Type)
  | /-- A step of the stream that settles no task. -/
    stream (event : BulkEvent redaction)
  | /-- The next finished task is recorded. -/
    record (task : ItemTask Stream) (probe : Probe)
  | /-- The next task in flight settles while the stream is finalised. -/
    drain (task : ItemTask Stream)

/-- The event settles a task. -/
def settlesTask {redaction : Redaction} : BulkEvent redaction → Bool
  | .record _ _ | .drain _ => true
  | _ => false

/-- A run between two steps: its stream, and the sources that were called with what happened in
each call. -/
structure HarvestState (Stream : Type) where
  stream : BulkState context.redaction.toRedaction
  calls : List (Text × CallHistory Stream)

/-- What the executor makes of the end of an item; none where an exception leaves that neither
is an `Exception` nor cancels. -/
def itemCall : Except context.Error context.Receipt →
    Option (ItemCall context.redaction.toRedaction)
  | .ok receipt => some (.returned receipt)
  | .error failure =>
      if failure.error.errorClass = .budgetExhausted then some .raisedBudgetExhausted
      else if failure.error.isException = true then some .raised
      else if failure.error.errorClass = .cancelled then some .raisedCancelled
      else none

/-- How a program ends when nothing happened before, and what happened. -/
def settledEnd {Locals α : Type} (program : context.Settling Stream Locals α) (locals : Locals) :
    Except context.Error α × CallHistory Stream :=
  ((program ⟨[], locals⟩).1, (program ⟨[], locals⟩).2.history)

/-- The bounded metadata of a checkpoint. -/
structure CheckpointProjection where
  settled : Nat
  completedIndexes : List Nat
  outcomes : List Outcome
  cancellationRequested : Bool
  resumptionCursor : Option String

/-- `_checkpoint_projection` -/
def checkpointProjection {redaction : Redaction} (checkpoint : BulkCheckpoint redaction) :
    CheckpointProjection where
  settled := checkpoint.itemReceipts.length
  completedIndexes := checkpoint.itemReceipts.map BulkItemReceipt.index
  outcomes := checkpoint.itemReceipts.map fun item => item.receipt.outcome
  cancellationRequested := checkpoint.cancellationRequested
  resumptionCursor := checkpoint.resumptionCursor

/-- `HarvestBulkResult` -/
structure HarvestBulkResult where
  action : BulkAction
  plan : BulkPlan
  receipts : List (BulkItemReceipt context.redaction.toRedaction)
  summary : BulkSummary
  checkpoints : List CheckpointProjection
  resume : Option (BulkCheckpoint context.redaction.toRedaction)

namespace HarvestRun

variable {context} (run : HarvestRun context Stream)

/-- The stream of the executor. -/
def bulkRun : BulkRun context.redaction.toRedaction where
  kind := run.kind
  policy := run.executionPolicy
  platformMaxParallelism := maxBulkParallelism
  plan := bulkPlan run.action run.targets false
  checkpoint := run.checkpoint
  platform_bounded := maxBulkParallelism_bounded
  accepted := run.accepted

/-- The end of the item of a source, and what happened in it. -/
def runItem (environment : CallEnvironment Stream) (sourceId : Text) :
    Except context.Error context.Receipt × CallHistory Stream :=
  match run.kind with
  | .sync => settledEnd context
      (bulkItem context environment run.client run.action run.permissions run.policy sourceId) {}
  | .async => settledEnd context
      (bulkItemAsync context environment run.client run.action run.permissions run.policy
        sourceId) {}

/-- What the executor reads from the task of a source, and what happened in it. -/
def taskRun (sourceId : Text) :
    ItemTask Stream → Option (ItemRun context.redaction.toRedaction) × CallHistory Stream
  | .preflightExhausted => (some .preflightExhausted, [])
  | .cancelledEarly => (some (.called .raisedCancelled false), [])
  | .called environment budgetExhausted =>
      ((itemCall context (run.runItem environment sourceId).1).map (.called · budgetExhausted),
        (run.runItem environment sourceId).2)

/-- The stream behind an exception of a task that no handler of it expects. -/
def leave (state : BulkState context.redaction.toRedaction) (index : Nat) :
    BulkState context.redaction.toRedaction :=
  ⟨{ state.ledger with inFlight := state.ledger.inFlight.erase index }, .ended .raised⟩

/-- The task of the next item settles, where the stream takes such an event. -/
def settle (state : HarvestState context Stream) (task : ItemTask Stream)
    (event : ItemRun context.redaction.toRedaction → BulkEvent context.redaction.toRedaction) :
    Option (HarvestState context Stream) := do
  let index ← state.stream.settlingIndex
  let sourceId ← run.targets.sourceIds[index]?
  if task.possible run.kind = true then
    let taken := run.taskRun sourceId task
    let next ← run.bulkRun.step state.stream (event (taken.1.getD .preflightExhausted))
    some
      { stream := if taken.1.isSome = true then next else leave state.stream index
        calls := state.calls ++ [(sourceId, taken.2)] }
  else none

/-- One step of a run. -/
def step (state : HarvestState context Stream)
    (event : HarvestEvent context.redaction.toRedaction Stream) :
    Option (HarvestState context Stream) :=
  match event with
  | .stream event =>
      if settlesTask event = true then none
      else (run.bulkRun.step state.stream event).map fun next => { state with stream := next }
  | .record task probe => run.settle state task (.record · probe)
  | .drain task => run.settle state task .drain

/-- The runs of one call of `run_bulk`. -/
def system : System (HarvestState context Stream)
    (HarvestEvent context.redaction.toRedaction Stream) where
  init state := ∃ probe, state = ⟨run.bulkRun.start probe, []⟩
  step := run.step

/-- `_bulk_result` of a stream that was drained. -/
def bulkResult (state : HarvestState context Stream) (readings : SummaryReadings) :
    Except String (HarvestBulkResult context) := do
  let summary ← run.bulkRun.terminalSummary state.stream.ledger readings
  return {
    action := run.action
    plan := run.bulkRun.plan
    receipts := state.stream.ledger.emitted
    summary := summary
    checkpoints := state.stream.ledger.handed.map checkpointProjection
    resume := state.stream.ledger.handed.getLast?.or run.checkpoint }

end HarvestRun

end DataSluice.Catalog.Udata
