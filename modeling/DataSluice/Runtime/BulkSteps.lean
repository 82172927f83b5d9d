/-
# What a step of a bulk stream changes

Every statement of a stream ends in the same few ways for what is promised about a run. It
leaves the completed receipts alone, or records one for the task that settles; it takes no item,
or the first one that is pending; it hands nothing to the sink, or one checkpoint made of the
completed receipts; and a receipt that the consumer is shown was shown before or is completed.

`Silent` says this of the statements that leave all of that as it is, `Follows` of those that may
hand a checkpoint over, and `StepEffect` of a step. The results about runs are read off
`stepEffect_of_step`, the one case analysis over the phases and events.
-/

import DataSluice.Runtime.BulkSafety

namespace DataSluice.Runtime

open DataSluice.Lib DataSluice.Domain

variable {redaction : Redaction} {run : BulkRun redaction} {ledger : BulkLedger redaction}

/-! ## The parts of a state -/

/-- The index whose task is looked at next. -/
def BulkState.settlingIndex (state : BulkState redaction) : Option Nat :=
  match state.phase with
  | .collecting done => done.head?
  | .draining | .cleanup _ => state.ledger.inFlight.head?
  | _ => none

/-- The receipt that `execute_item` returned, if the event reports one. -/
def BulkEvent.returnedReceipt : BulkEvent redaction → Option (MutationReceipt redaction)
  | .record (.called (.returned receipt) _) _ | .drain (.called (.returned receipt) _) =>
      some receipt
  | _ => none

/-- The receipt that a settled task leaves: the one its call returned, or a failure receipt for
its item. -/
def Recorded (run : BulkRun redaction) (event : BulkEvent redaction) (index : Nat)
    (receipt : MutationReceipt redaction) : Prop :=
  event.returnedReceipt = some receipt ∨ ∃ item exhausted,
    run.plan.items[index]? = some item ∧ receipt = failureReceipt run.plan item exhausted

/-- The receipts that were yielded, and those of the loop over ordered receipts that are left. -/
def BulkState.shown (state : BulkState redaction) : List (BulkItemReceipt redaction) :=
  match state.phase with
  | .yielding queue _ => state.ledger.emitted ++ queue
  | _ => state.ledger.emitted

/-- What the state shows was shown before or is completed. -/
def ShowsOnly (before : List (BulkItemReceipt redaction)) (state : BulkState redaction) : Prop :=
  ∀ item ∈ state.shown, item ∈ before ∨ state.ledger.completed item.index = some item.receipt

theorem ShowsOnly.of_eq {before : List (BulkItemReceipt redaction)} {state : BulkState redaction}
    (hsame : state.shown = before) : ShowsOnly before state :=
  fun _ hitem => .inl (hsame ▸ hitem)

/-- No item is taken. -/
structure SameQueue (ledger target : BulkLedger redaction) : Prop where
  pending : target.pending = ledger.pending
  dispatches : target.dispatches = ledger.dispatches
  dispatched : target.dispatched = ledger.dispatched

/-- The first of the pending items is taken. -/
structure TakesNext (ledger target : BulkLedger redaction) (index : Nat) : Prop where
  pending : ledger.pending = index :: target.pending
  dispatches : target.dispatches = ledger.dispatches + 1
  dispatched : target.dispatched = ledger.dispatched ++ [index]

/-! ## Statements that only move on -/

/-- A statement that leaves the receipts, the queue and the sink as they are, where `before` may
be shown. -/
structure Silent (ledger : BulkLedger redaction) (before : List (BulkItemReceipt redaction))
    (state : BulkState redaction) : Prop where
  completed : state.ledger.completed = ledger.completed
  handed : state.ledger.handed = ledger.handed
  queue : SameQueue ledger state.ledger
  shown : ShowsOnly before state

/-- The state has the ledger itself, in a phase that yields nothing more. -/
theorem Silent.of_ledger {state : BulkState redaction} (hledger : state.ledger = ledger)
    (hshown : state.shown = ledger.emitted) : Silent ledger ledger.emitted state where
  completed := by rw [hledger]
  handed := by rw [hledger]
  queue := by rw [hledger]; exact ⟨rfl, rfl, rfl⟩
  shown := .of_eq hshown

theorem silent_enterLoop (ledger : BulkLedger redaction) :
    Silent ledger ledger.emitted (BulkRun.enterLoop ledger) := by
  rw [BulkRun.enterLoop]
  split
  · exact .of_ledger rfl rfl
  · exact .of_ledger rfl rfl

theorem silent_collect (ledger : BulkLedger redaction) (done : List Nat) :
    Silent ledger ledger.emitted (BulkRun.collect ledger done) := by
  rw [BulkRun.collect]
  split
  · exact silent_enterLoop ledger
  · exact .of_ledger rfl rfl

/-- Yielding moves the first receipt of the loop to those that were yielded. -/
theorem silent_yieldNext (ledger : BulkLedger redaction)
    (queue : List (BulkItemReceipt redaction)) (next : Resume) :
    Silent ledger (ledger.emitted ++ queue) (BulkRun.yieldNext ledger queue next) := by
  cases queue with
  | cons item queue =>
      refine ⟨rfl, rfl, ⟨rfl, rfl, rfl⟩, .of_eq ?_⟩
      show (ledger.emitted ++ [item]) ++ queue = ledger.emitted ++ (item :: queue)
      rw [List.append_assoc, List.singleton_append]
  | nil =>
      rw [List.append_nil]
      cases next with
      | start => exact silent_enterLoop ledger
      | loop done => exact silent_collect ledger done
      | finish => exact .of_ledger rfl (List.append_nil _)
      | summary => exact .of_ledger rfl rfl

/-- The ordered receipts are completed. -/
theorem completed_of_mem_orderedFrom {completed : Nat → Option (MutationReceipt redaction)}
    {fuel index : Nat} {item : BulkItemReceipt redaction}
    (hitem : item ∈ orderedFrom completed fuel index) :
    completed item.index = some item.receipt := by
  induction fuel generalizing index with
  | zero => cases hitem
  | succ fuel ih =>
      rw [orderedFrom] at hitem
      cases hreceipt : completed index with
      | none =>
          rw [hreceipt] at hitem
          cases hitem
      | some receipt =>
          rw [hreceipt] at hitem
          rcases List.mem_cons.mp hitem with rfl | hlater
          · exact hreceipt
          · exact ih hlater

/-- A loop over the ordered receipts shows completed receipts only. -/
theorem silent_emit (run : BulkRun redaction) (ledger : BulkLedger redaction) (next : Resume) :
    Silent ledger ledger.emitted (run.emit ledger next) := by
  have hyield := silent_yieldNext
    { ledger with nextEmit := ledger.nextEmit + (run.orderedReceipts ledger).length }
    (run.orderedReceipts ledger) next
  refine ⟨hyield.completed, hyield.handed,
    ⟨hyield.queue.pending, hyield.queue.dispatches, hyield.queue.dispatched⟩, ?_⟩
  intro item hitem
  rcases hyield.shown item hitem with hbefore | hcompleted
  · rcases List.mem_append.mp hbefore with hemitted | hordered
    · exact .inl hemitted
    · refine .inr ?_
      calc (run.emit ledger next).ledger.completed item.index
          = ledger.completed item.index := congrFun hyield.completed item.index
        _ = some item.receipt := completed_of_mem_orderedFrom hordered
  · exact .inr hcompleted

theorem silent_leave (ledger : BulkLedger redaction) :
    Silent ledger ledger.emitted (BulkRun.dispatchAvailable.leave ledger) := by
  rw [BulkRun.dispatchAvailable.leave]
  split
  · exact .of_ledger rfl rfl
  · exact .of_ledger rfl rfl

theorem silent_afterRecord (run : BulkRun redaction) (ledger : BulkLedger redaction)
    (done : List Nat) : Silent ledger ledger.emitted (run.afterRecord ledger done) := by
  have hemit := silent_emit run
    { ledger with
      lastPersistedCount := (completedReceipts run.total ledger.completed).length
      lastPersistedStopReason := ledger.stopReason } (.loop done)
  exact ⟨hemit.completed, hemit.handed,
    ⟨hemit.queue.pending, hemit.queue.dispatches, hemit.queue.dispatched⟩, hemit.shown⟩

/-! ## Statements that may hand a checkpoint over -/

/-- A statement that leaves the receipts and the queue as they are and hands over at most one
checkpoint, made of the completed receipts. -/
structure Follows (run : BulkRun redaction) (ledger : BulkLedger redaction)
    (before : List (BulkItemReceipt redaction)) (state : BulkState redaction) : Prop where
  completed : state.ledger.completed = ledger.completed
  handed : state.ledger.handed = ledger.handed ∨ ∃ cancellation,
    state.ledger.handed = ledger.handed ++ [run.buildCheckpoint ledger.completed cancellation]
  queue : SameQueue ledger state.ledger
  shown : ShowsOnly before state

theorem Silent.follows {before : List (BulkItemReceipt redaction)} {state : BulkState redaction}
    (hsilent : Silent ledger before state) : Follows run ledger before state :=
  ⟨hsilent.completed, .inl hsilent.handed, hsilent.queue, hsilent.shown⟩

theorem Follows.of_ledger {state : BulkState redaction} (hledger : state.ledger = ledger)
    (hshown : state.shown = ledger.emitted) : Follows run ledger ledger.emitted state :=
  (Silent.of_ledger hledger hshown).follows

/-- What follows `_persist` silently. -/
theorem Silent.follows_persist {cancellation : Bool} {state : BulkState redaction}
    (hsilent : Silent (run.persist ledger cancellation) ledger.emitted state) :
    Follows run ledger ledger.emitted state := by
  by_cases hrequired : run.policy.checkpointRequired = true
  · rw [BulkRun.persist, if_pos hrequired] at hsilent
    exact ⟨hsilent.completed, .inr ⟨cancellation, hsilent.handed⟩,
      ⟨hsilent.queue.pending, hsilent.queue.dispatches, hsilent.queue.dispatched⟩, hsilent.shown⟩
  · rw [BulkRun.persist, if_neg hrequired] at hsilent
    exact hsilent.follows

theorem emitted_persist (run : BulkRun redaction) (ledger : BulkLedger redaction)
    (cancellation : Bool) : (run.persist ledger cancellation).emitted = ledger.emitted := by
  obtain ⟨handed, hpersist⟩ := run.persist_eq ledger cancellation
  rw [hpersist]

/-- `_persist` as the last statement in front of a phase that yields nothing more. -/
theorem follows_persist {cancellation : Bool} {state : BulkState redaction}
    (hledger : state.ledger = run.persist ledger cancellation)
    (hshown : state.shown = state.ledger.emitted) : Follows run ledger ledger.emitted state := by
  have hsilent := Silent.of_ledger hledger (by rw [hshown, hledger])
  rw [emitted_persist] at hsilent
  exact hsilent.follows_persist

/-- The same with another stop state beforehand. -/
theorem Follows.of_stopReason (reason : Option StopReason)
    {before : List (BulkItemReceipt redaction)} {state : BulkState redaction}
    (hfollows : Follows run { ledger with stopReason := reason } before state) :
    Follows run ledger before state :=
  ⟨hfollows.completed, hfollows.handed,
    ⟨hfollows.queue.pending, hfollows.queue.dispatches, hfollows.queue.dispatched⟩,
    hfollows.shown⟩

theorem follows_recordResult (run : BulkRun redaction) (ledger : BulkLedger redaction)
    (index : Nat) (done : List Nat) (result : ItemResult redaction) (probe : Probe) :
    Follows run (BulkRun.complete ledger index result) ledger.emitted
      (run.recordResult ledger index done result probe) := by
  obtain ⟨reason, hrefresh⟩ := run.refreshStopState_eq (BulkRun.complete ledger index result)
    probe (!ledger.pending.isEmpty)
  apply Follows.of_stopReason reason
  simp only [BulkRun.recordResult, hrefresh]
  split
  · exact follows_persist rfl rfl
  · have hafter := silent_afterRecord run (run.persist
      { BulkRun.complete ledger index result with stopReason := reason }
      (reason = some .cancelled)) done
    rw [emitted_persist] at hafter
    exact hafter.follows_persist

theorem follows_finishProgress (run : BulkRun redaction) (ledger : BulkLedger redaction)
    (probe : Probe) : Follows run ledger ledger.emitted (run.finishProgress ledger probe) := by
  obtain ⟨reason, hrefresh⟩ := run.refreshStopState_eq ledger probe false
  apply Follows.of_stopReason reason
  simp only [BulkRun.finishProgress, hrefresh]
  split
  · split
    · exact follows_persist rfl rfl
    · have hemit := silent_emit run (run.persist { ledger with stopReason := reason }
        (reason = some .cancelled)) .finish
      rw [emitted_persist] at hemit
      exact hemit.follows_persist
  · exact (silent_emit run { ledger with stopReason := reason } .finish).follows

theorem follows_finalize (run : BulkRun redaction) (ledger : BulkLedger redaction)
    {phase : BulkPhase redaction} (hphase : phase.drains = true) (ending : Ending)
    (interrupted : Bool) :
    Follows run ledger ledger.emitted (run.finalize ledger phase ending interrupted) := by
  rw [BulkRun.finalize]
  split
  · split
    · exact follows_persist rfl rfl
    · exact follows_persist rfl rfl
  · cases phase with
    | draining | cleanup _ => exact .of_ledger rfl rfl
    | _ => cases hphase

theorem follows_cancelAt {phase : BulkPhase redaction} {target : BulkState redaction}
    (hcancel : run.cancelAt ledger phase = some target) :
    Follows run ledger ledger.emitted target := by
  match phase with
  | .waiting | .storing _ =>
      cases hcancel
      exact follows_finalize run ledger rfl _ _
  | .storingLast | .draining | .cleanup false | .cleanup true | .storingFinal _ false |
    .storingFinal _ true =>
      cases hcancel
      exact .of_ledger rfl rfl
  | .yielding _ _ | .dispatching | .collecting _ | .finishing | .ended _ => cases hcancel

/-! ## Steps -/

/-- What one step does: it records at most one receipt, for the task that settles; it hands over
at most one checkpoint, made of the receipts behind the step; it takes at most one item, the
first that is pending; and it shows nothing that is not completed. -/
structure StepEffect (run : BulkRun redaction) (source : BulkState redaction)
    (event : BulkEvent redaction) (target : BulkState redaction) : Prop where
  completed : target.ledger.completed = source.ledger.completed ∨ ∃ index receipt,
    source.settlingIndex = some index ∧ Recorded run event index receipt ∧
      target.ledger.completed = Function.update source.ledger.completed index (some receipt)
  handed : target.ledger.handed = source.ledger.handed ∨ ∃ cancellation,
    target.ledger.handed =
      source.ledger.handed ++ [run.buildCheckpoint target.ledger.completed cancellation]
  queue : SameQueue source.ledger target.ledger ∨ ∃ index,
    TakesNext source.ledger target.ledger index
  shown : ShowsOnly source.shown target

/-- A step that records nothing and takes no item. -/
theorem StepEffect.of_follows {source target : BulkState redaction} {event : BulkEvent redaction}
    (hfollows : Follows run source.ledger source.shown target) :
    StepEffect run source event target where
  completed := .inl hfollows.completed
  handed := by
    rw [hfollows.completed]
    exact hfollows.handed
  queue := .inl hfollows.queue
  shown := hfollows.shown

/-- A step that records the receipt of a task. -/
theorem StepEffect.of_complete {source target : BulkState redaction}
    {event : BulkEvent redaction} {index : Nat} {result : ItemResult redaction}
    (hindex : source.settlingIndex = some index)
    (hrecorded : Recorded run event index result.receipt)
    (hfollows : Follows run (BulkRun.complete source.ledger index result) source.shown target) :
    StepEffect run source event target where
  completed := .inr ⟨index, result.receipt, hindex, hrecorded, hfollows.completed⟩
  handed := by
    rw [hfollows.completed]
    exact hfollows.handed
  queue := .inl ⟨hfollows.queue.pending, hfollows.queue.dispatches, hfollows.queue.dispatched⟩
  shown := hfollows.shown

/-- The receipt of a settled task was returned by its call or made for its item. -/
theorem recorded_of_taskResult {index : Nat} {catalogId : CatalogId} {item : ItemRun redaction}
    {result : ItemResult redaction} {event : BulkEvent redaction}
    (hitem : run.plan.items[index]? = some catalogId)
    (hresult : taskResult run.kind run.plan catalogId item = some result)
    (hevent : ∀ receipt budget, item = .called (.returned receipt) budget →
      event.returnedReceipt = some receipt) : Recorded run event index result.receipt := by
  rcases taskResult_receipt hresult with ⟨budget, hcall⟩ | ⟨exhausted, hreceipt⟩
  · exact .inl (hevent _ budget hcall)
  · exact .inr ⟨catalogId, exhausted, hitem, hreceipt⟩

/-- A task that leaves no result ends the stream. -/
theorem stepEffect_raised {source : BulkState redaction} {event : BulkEvent redaction}
    (index : Nat) (hshown : source.shown = source.ledger.emitted) :
    StepEffect run source event
      ⟨{ source.ledger with inFlight := source.ledger.inFlight.erase index }, .ended .raised⟩ where
  completed := .inl rfl
  handed := .inl rfl
  queue := .inl ⟨rfl, rfl, rfl⟩
  shown := .of_eq hshown.symm

/-- The dispatch of an item takes the first one that is pending. -/
theorem stepEffect_dispatchAvailable (run : BulkRun redaction) (ledger : BulkLedger redaction)
    (probe : Probe) : StepEffect run ⟨ledger, .dispatching⟩ (.dispatch probe)
      (run.dispatchAvailable ledger probe) := by
  rw [BulkRun.dispatchAvailable]
  split
  · exact .of_follows (silent_leave ledger).follows
  · next index pending hpending =>
      split
      · exact .of_follows (silent_leave ledger).follows
      · split
        · next reason _ =>
            have hleave := silent_leave { ledger with stopReason := some reason }
            exact .of_follows hleave.follows.of_stopReason
        · exact ⟨.inl rfl, .inl rfl, .inr ⟨index, hpending, rfl, rfl⟩, .of_eq rfl⟩

theorem stepEffect_drainNext {source target : BulkState redaction} {item : ItemRun redaction}
    {phase : BulkPhase redaction} {ending : Ending} {interrupted : Bool}
    (hphase : phase.drains = true) (hindex : source.settlingIndex = source.ledger.inFlight.head?)
    (hshown : source.shown = source.ledger.emitted)
    (hdrain : run.drainNext source.ledger item phase ending interrupted = some target) :
    StepEffect run source (.drain item) target := by
  simp only [BulkRun.drainNext, Option.bind_eq_bind, Option.bind_eq_some_iff] at hdrain
  obtain ⟨index, hhead, catalogId, hitem, htaken⟩ := hdrain
  split at htaken
  · cases htaken
    exact stepEffect_raised index hshown
  · next result hresult =>
      cases htaken
      have hrecorded : Recorded run (.drain item) index result.receipt := by
        refine recorded_of_taskResult hitem hresult ?_
        rintro receipt budget rfl
        rfl
      refine .of_complete (hindex.trans hhead) hrecorded ?_
      rw [hshown]
      exact follows_finalize run (BulkRun.complete source.ledger index result) hphase ending
        interrupted

/-- What any step does. The cases are those of the events, and of the phases that take them. -/
theorem stepEffect_of_step {source target : BulkState redaction} {event : BulkEvent redaction}
    (hstep : run.step source event = some target) : StepEffect run source event target := by
  obtain ⟨ledger, phase⟩ := source
  cases event with
  | next =>
      cases phase with
      | yielding queue next =>
          cases hstep
          exact .of_follows (silent_yieldNext ledger queue next).follows
      | _ => cases hstep
  | close =>
      cases phase with
      | yielding queue next =>
          -- what was left of the loop is not shown any more
          have hless : ∀ {state : BulkState redaction}, Follows run ledger ledger.emitted state →
              Follows run ledger (ledger.emitted ++ queue) state := fun hfollows =>
            ⟨hfollows.completed, hfollows.handed, hfollows.queue, fun item hitem =>
              (hfollows.shown item hitem).imp_left (List.mem_append_left queue)⟩
          cases next with
          | loop done =>
              cases hstep
              exact .of_follows (hless (follows_finalize run ledger rfl .generatorExit false))
          | start | finish | summary =>
              cases hstep
              exact .of_follows (hless (.of_ledger rfl rfl))
      | _ => cases hstep
  | dispatch probe =>
      cases phase with
      | dispatching =>
          cases hstep
          exact stepEffect_dispatchAvailable run ledger probe
      | _ => cases hstep
  | wait done =>
      cases phase with
      | waiting =>
          simp only [BulkRun.step] at hstep
          split at hstep
          · cases hstep
            exact .of_follows (silent_collect ledger done).follows
          · cases hstep
      | _ => cases hstep
  | record item probe =>
      cases phase with
      | collecting done =>
          cases done with
          | nil => cases hstep
          | cons index done =>
              simp only [BulkRun.step, Option.bind_eq_bind, Option.bind_eq_some_iff] at hstep
              obtain ⟨catalogId, hitem, htaken⟩ := hstep
              split at htaken
              · cases htaken
                exact stepEffect_raised index rfl
              · next result hresult =>
                  cases htaken
                  have hrecorded : Recorded run (.record item probe) index result.receipt := by
                    refine recorded_of_taskResult hitem hresult ?_
                    rintro receipt budget rfl
                    rfl
                  exact .of_complete rfl hrecorded
                    (follows_recordResult run ledger index done result probe)
      | _ => cases hstep
  | stored =>
      cases phase with
      | storing done =>
          cases hstep
          exact .of_follows (silent_afterRecord run ledger done).follows
      | storingLast =>
          cases hstep
          exact .of_follows (silent_emit run ledger .finish).follows
      | storingFinal ending interrupted =>
          cases hstep
          exact .of_follows (.of_ledger rfl rfl)
      | _ => cases hstep
  | finish probe =>
      cases phase with
      | finishing =>
          cases hstep
          exact .of_follows (follows_finishProgress run ledger probe)
      | _ => cases hstep
  | drain item =>
      cases phase with
      | draining => exact stepEffect_drainNext rfl rfl rfl hstep
      | cleanup interrupted => exact stepEffect_drainNext rfl rfl rfl hstep
      | _ => cases hstep
  | cancel =>
      simp only [BulkRun.step] at hstep
      split at hstep
      · cases hstep
      · have hcancel := follows_cancelAt hstep
        cases phase with
        | yielding queue next => cases hstep
        | _ => exact .of_follows hcancel

end DataSluice.Runtime
