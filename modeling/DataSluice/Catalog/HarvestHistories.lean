/-
# Histories of harvest bulk runs

A run of `run_bulk` may resume from a checkpoint that an earlier run handed over. Two things are
asked of such a history. The checkpoint that a result carries is accepted when the same action
and targets are run again: the receipts in it name the items of the plan, which they do as long
as the identifiers of the items are safe to keep in a receipt. And a source that a result
reports as succeeded was sent a request of the action, in this run or in one that the checkpoint
descends from. A plan does not tell its action, so this takes a checkpoint of the same action.
-/

import DataSluice.Catalog.UdataHarvest
import DataSluice.Runtime.BulkYields
import DataSluice.Runtime.RetrySafety

namespace DataSluice.Catalog.Udata

open DataSluice.Lib DataSluice.Lib.Url DataSluice.Domain DataSluice.Runtime
open DataSluice.Runtime.Transport

variable {context : ReceiptContext} {Stream : Type} {run : HarvestRun context Stream}

/-! ## What a step does -/

/-- The event runs the item of its task. -/
def HarvestEvent.calls {redaction : Redaction} : HarvestEvent redaction Stream → Bool
  | .record (.called _ _) _ | .drain (.called _ _) => true
  | _ => false

/-- The receipt that an item returns names its source and reports what was sent. -/
theorem itemReceipt_of_runItem {environment : CallEnvironment Stream} {sourceId : Text}
    {receipt : context.Receipt} (hreceipt : (run.runItem environment sourceId).1 = .ok receipt) :
    ItemReceipt run.client run.action sourceId receipt (run.runItem environment sourceId).2 := by
  unfold HarvestRun.runItem settledEnd at hreceipt ⊢
  cases hkind : run.kind with
  | sync =>
      rw [hkind] at hreceipt
      exact (ends_bulkItem environment run.client run.action run.permissions run.policy sourceId
        ⟨[], {}⟩ rfl).1 receipt _ (Prod.ext hreceipt rfl)
  | async =>
      rw [hkind] at hreceipt
      exact (ends_bulkItemAsync environment run.client run.action run.permissions run.policy
        sourceId ⟨[], {}⟩ rfl).1 receipt _ (Prod.ext hreceipt rfl)

/-- What one step of a run does to its stream and to its calls. -/
inductive StepOf (run : HarvestRun context Stream) (source target : HarvestState context Stream)
    (event : HarvestEvent context.redaction.toRedaction Stream) : Prop
  | /-- The stream takes a step that settles no task. -/
    stream (inner : BulkEvent context.redaction.toRedaction)
      (quiet : inner.returnedReceipt = none)
      (taken : run.bulkRun.step source.stream inner = some target.stream)
      (calls : target.calls = source.calls)
  | /-- The task of the next item settles. -/
    settled (inner : BulkEvent context.redaction.toRedaction) (index : Nat) (sourceId : Text)
      (history : CallHistory Stream) (settling : source.stream.settlingIndex = some index)
      (item : run.targets.sourceIds[index]? = some sourceId)
      (returned : ∀ receipt, inner.returnedReceipt = some receipt → event.calls = true ∧
        ItemReceipt run.client run.action sourceId receipt history)
      (taken : run.bulkRun.step source.stream inner = some target.stream)
      (calls : target.calls = source.calls ++ [(sourceId, history)])
  | /-- An exception that nothing expects leaves the task and the stream. -/
    left (inner : BulkEvent context.redaction.toRedaction) (index : Nat)
      (stream : target.stream = HarvestRun.leave source.stream index)
      (taken : (run.bulkRun.step source.stream inner).isSome = true)
      (calls : source.calls ⊆ target.calls)

/-- The receipt that the executor reads from a task was returned by the item. -/
theorem taskRun_returned {sourceId : Text} {task : ItemTask Stream} {receipt : context.Receipt}
    {budget : Bool}
    (htask : (run.taskRun sourceId task).1 = some (.called (.returned receipt) budget)) :
    (∃ environment exhausted, task = .called environment exhausted) ∧
      ItemReceipt run.client run.action sourceId receipt (run.taskRun sourceId task).2 := by
  cases task with
  | preflightExhausted => cases htask
  | cancelledEarly => cases htask
  | called environment exhausted =>
      refine ⟨⟨environment, exhausted, rfl⟩, ?_⟩
      simp only [HarvestRun.taskRun, Option.map_eq_some_iff, ItemRun.called.injEq] at htask
      obtain ⟨call, hcall, rfl, -⟩ := htask
      apply itemReceipt_of_runItem
      cases hend : (run.runItem environment sourceId).1 with
      | ok returned =>
          rw [hend] at hcall
          cases hcall
          rfl
      | error failure =>
          rw [hend] at hcall
          unfold itemCall at hcall
          simp only at hcall
          split_ifs at hcall <;> cases hcall

/-- The receipt that a task returns, if its item was run and returned one. -/
def returnedBy {redaction : Redaction} : ItemRun redaction → Option (MutationReceipt redaction)
  | .called (.returned receipt) _ => some receipt
  | _ => none

theorem returnedBy_eq_some {redaction : Redaction} {item : ItemRun redaction}
    {receipt : MutationReceipt redaction} (hreturned : returnedBy item = some receipt) :
    ∃ budget, item = .called (.returned receipt) budget := by
  cases item with
  | preflightExhausted => cases hreturned
  | called call budget =>
      cases call with
      | returned other =>
          cases hreturned
          exact ⟨budget, rfl⟩
      | _ => cases hreturned

theorem returnedReceipt_record {redaction : Redaction} (item : ItemRun redaction)
    (probe : Probe) : (BulkEvent.record item probe).returnedReceipt = returnedBy item := by
  cases item with
  | preflightExhausted => rfl
  | called call budget => cases call <;> rfl

theorem returnedReceipt_drain {redaction : Redaction} (item : ItemRun redaction) :
    (BulkEvent.drain item).returnedReceipt = returnedBy item := by
  cases item with
  | preflightExhausted => rfl
  | called call budget => cases call <;> rfl

/-- What the settlement of a task does. -/
theorem stepOf_settle {source target : HarvestState context Stream} {task : ItemTask Stream}
    {event : HarvestEvent context.redaction.toRedaction Stream}
    {inner : ItemRun context.redaction.toRedaction → BulkEvent context.redaction.toRedaction}
    (hinner : ∀ item, (inner item).returnedReceipt = returnedBy item)
    (hcalls : ∀ environment exhausted, task = .called environment exhausted →
      event.calls = true)
    (hstep : run.settle source task inner = some target) : StepOf run source target event := by
  simp only [HarvestRun.settle, Option.bind_eq_bind, Option.bind_eq_some_iff] at hstep
  obtain ⟨index, hindex, sourceId, hsource, htaken⟩ := hstep
  split at htaken
  · obtain ⟨next, hnext, htarget⟩ := Option.bind_eq_some_iff.mp htaken
    cases htarget
    cases hitem : (run.taskRun sourceId task).1 with
    | none =>
        rw [hitem] at hnext
        apply StepOf.left _ index
        · simp only [Option.isSome_none, Bool.false_eq_true, if_false]
        · exact Option.isSome_of_eq_some hnext
        · exact List.subset_append_left _ _
    | some item =>
        rw [hitem] at hnext
        apply StepOf.settled (inner item) index sourceId (run.taskRun sourceId task).2 hindex
          hsource
        · intro receipt hreceipt
          obtain ⟨budget, rfl⟩ := returnedBy_eq_some ((hinner item).symm.trans hreceipt)
          obtain ⟨⟨environment, exhausted, htask⟩, hown⟩ := taskRun_returned hitem
          exact ⟨hcalls environment exhausted htask, hown⟩
        · simp only [Option.isSome_some, if_true]
          exact hnext
        · rfl
  · cases htaken

/-- Every step is one of these. -/
theorem stepOf_step {source target : HarvestState context Stream}
    {event : HarvestEvent context.redaction.toRedaction Stream}
    (hstep : run.step source event = some target) : StepOf run source target event := by
  cases event with
  | stream inner =>
      simp only [HarvestRun.step] at hstep
      split at hstep
      · cases hstep
      · next hsettles =>
          obtain ⟨next, hnext, rfl⟩ := Option.map_eq_some_iff.mp hstep
          refine .stream inner ?_ hnext rfl
          cases inner with
          | record item probe => exact absurd rfl hsettles
          | drain item => exact absurd rfl hsettles
          | _ => rfl
  | record task probe =>
      apply stepOf_settle (fun item => returnedReceipt_record item probe) _
        (show run.settle source task (.record · probe) = some target from hstep)
      rintro environment exhausted rfl
      rfl
  | drain task =>
      apply stepOf_settle returnedReceipt_drain _
        (show run.settle source task .drain = some target from hstep)
      rintro environment exhausted rfl
      rfl

/-! ## What a run keeps -/

namespace HarvestRun

/-- The run sent a request of its action for the source. -/
def SentBy (run : HarvestRun context Stream) (state : HarvestState context Stream)
    (sourceId : Text) : Prop :=
  ∃ history, (sourceId, history) ∈ state.calls ∧
    SentItem run.client run.action sourceId history

/-- `run_bulk` returns the result, for what the clock and the budget errors say then. -/
def Returns (run : HarvestRun context Stream) (state : HarvestState context Stream)
    (result : HarvestBulkResult context) : Prop :=
  state.stream.phase = .ended .normal ∧ ∃ readings, run.bulkResult state readings = .ok result

/-- An item that is run has an identifier that a receipt keeps as it is. -/
def KeepsId (run : HarvestRun context Stream) (state : HarvestState context Stream)
    (event : HarvestEvent context.redaction.toRedaction Stream) : Prop :=
  event.calls = true → ∀ index ∈ state.stream.settlingIndex,
    ∀ sourceId ∈ run.targets.sourceIds[index]?, context.safeTargetValue sourceId = sourceId

/-- A success is one that the run resumed from, or a request was sent for it. -/
structure Followed (run : HarvestRun context Stream) (state : HarvestState context Stream) :
    Prop where
  reached : state.stream.phase = .ended .raised ∨ run.bulkRun.system.Reachable state.stream
  account : Account run.bulkRun state.stream.ledger
  plans : ∀ checkpoint ∈ state.stream.ledger.handed, checkpoint.plan = run.bulkRun.plan
  sent : ∀ index receipt, state.stream.ledger.completed index = some receipt →
    receipt.outcome = .succeeded → run.bulkRun.resumed index = some receipt ∨
      ∃ sourceId, run.targets.sourceIds[index]? = some sourceId ∧ run.SentBy state sourceId

/-- More calls do not undo a request. -/
theorem SentBy.mono {state later : HarvestState context Stream} {sourceId : Text}
    (hsent : run.SentBy state sourceId) (hcalls : state.calls ⊆ later.calls) :
    run.SentBy later sourceId := by
  obtain ⟨history, hmem, hitem⟩ := hsent
  exact ⟨history, hcalls hmem, hitem⟩

theorem followed_start (run : HarvestRun context Stream) (probe : Probe) :
    run.Followed ⟨run.bulkRun.start probe, []⟩ where
  reached := .inr (.start ⟨probe, rfl⟩)
  account := (reachable_invariant (.start ⟨probe, rfl⟩)).account
  plans := by
    intro checkpoint hcheckpoint
    rw [BulkRun.start, (silent_emit _ _ _).handed] at hcheckpoint
    cases hcheckpoint
  sent := by
    intro index receipt hcompleted _
    rw [BulkRun.start, (silent_emit _ _ _).completed] at hcompleted
    exact .inl hcompleted

/-- A stream that takes a step was reached by the executor. -/
theorem Followed.reachable {source : HarvestState context Stream}
    (hfollowed : run.Followed source) {inner : BulkEvent context.redaction.toRedaction}
    (htaken : (run.bulkRun.step source.stream inner).isSome = true) :
    run.bulkRun.system.Reachable source.stream := by
  rcases hfollowed.reached with hended | hreached
  · obtain ⟨⟨ledger, phase⟩, calls⟩ := source
    cases hended
    rw [step_ended] at htaken
    cases htaken
  · exact hreached

/-- A success that was accounted for stays so. -/
theorem Followed.sent_mono {source target : HarvestState context Stream}
    (hfollowed : run.Followed source) (hcalls : source.calls ⊆ target.calls) {index : Nat}
    {receipt : context.Receipt}
    (hcompleted : source.stream.ledger.completed index = some receipt)
    (hsucceeded : receipt.outcome = .succeeded) :
    run.bulkRun.resumed index = some receipt ∨
      ∃ sourceId, run.targets.sourceIds[index]? = some sourceId ∧ run.SentBy target sourceId := by
  rcases hfollowed.sent index receipt hcompleted hsucceeded with
    hresumed | ⟨sourceId, hsource, hsent⟩
  · exact .inl hresumed
  · exact .inr ⟨sourceId, hsource, hsent.mono hcalls⟩

/-- A step records no success for which no request was sent. -/
theorem followed_step {source target : HarvestState context Stream}
    {event : HarvestEvent context.redaction.toRedaction Stream} (hfollowed : run.Followed source)
    (hstep : run.step source event = some target) : run.Followed target := by
  cases stepOf_step hstep with
  | stream inner quiet taken calls =>
      have hreach : run.bulkRun.system.Reachable target.stream :=
        .next (hfollowed.reachable (Option.isSome_of_eq_some taken)) inner trivial taken
      refine ⟨.inr hreach, (reachable_invariant hreach).account,
        plan_handed_step hfollowed.plans taken, ?_⟩
      intro index receipt hcompleted hsucceeded
      rcases succeeded_step taken hcompleted hsucceeded with hbefore | ⟨-, hreturned⟩
      · exact hfollowed.sent_mono (calls ▸ List.Subset.refl _) hbefore hsucceeded
      · rw [quiet] at hreturned
        cases hreturned
  | settled inner settling sourceId history hsettling item returned taken calls =>
      have hreach : run.bulkRun.system.Reachable target.stream :=
        .next (hfollowed.reachable (Option.isSome_of_eq_some taken)) inner trivial taken
      refine ⟨.inr hreach, (reachable_invariant hreach).account,
        plan_handed_step hfollowed.plans taken, ?_⟩
      intro index receipt hcompleted hsucceeded
      rcases succeeded_step taken hcompleted hsucceeded with hbefore | ⟨hindex, hreturned⟩
      · exact hfollowed.sent_mono (calls ▸ List.subset_append_left _ _) hbefore hsucceeded
      · rw [hsettling] at hindex
        cases hindex
        refine .inr ⟨sourceId, item, history, ?_, (returned receipt hreturned).2.sent hsucceeded⟩
        rw [calls]
        exact List.mem_append_right _ (List.mem_singleton_self _)
  | left inner index stream taken calls =>
      refine ⟨.inl ?_, ?_, ?_, ?_⟩
      · rw [stream]
        rfl
      · rw [stream]
        exact hfollowed.account.drop index
      · rw [stream]
        exact hfollowed.plans
      · intro index receipt hcompleted hsucceeded
        rw [stream] at hcompleted
        exact hfollowed.sent_mono calls hcompleted hsucceeded

/-- Every state of a run is followed. -/
theorem followed_of_reachable {state : HarvestState context Stream}
    (hreach : run.system.Reachable state) : run.Followed state := by
  refine System.ReachableUnder.invariant ?_ ?_ hreach
  · rintro _ ⟨probe, rfl⟩
    exact followed_start run probe
  · intro source event target hsource _ hstep
    exact followed_step hsource hstep

/-! ## Usable checkpoints -/

/-- An identifier that a receipt keeps makes the target of the receipt the item of the plan. -/
theorem safeTarget_eq {sourceId : Text} (hkept : context.safeTargetValue sourceId = sourceId)
    (nonempty : String.ofList sourceId ≠ "") :
    context.safeTarget harvestSourceKind sourceId = sourceItem sourceId nonempty := by
  unfold ReceiptContext.safeTarget sourceItem
  simp only [hkept]

/-- The receipts of such items are for the items of the plan. -/
theorem resumeInvariant_harvestStep {source target : HarvestState context Stream}
    {event : HarvestEvent context.redaction.toRedaction Stream}
    (hinv : ResumeInvariant run.bulkRun source.stream) (hkeeps : run.KeepsId source event)
    (hstep : run.step source event = some target) :
    ResumeInvariant run.bulkRun target.stream := by
  cases stepOf_step hstep with
  | stream inner quiet taken calls =>
      apply resumeInvariant_step hinv _ taken
      intro index hindex receipt hreceipt
      rw [quiet] at hreceipt
      cases hreceipt
  | settled inner settling sourceId history hsettling item returned taken calls =>
      apply resumeInvariant_step hinv _ taken
      intro index hindex receipt hreceipt
      obtain ⟨hcalled, hown⟩ := returned receipt hreceipt
      have hkept := hkeeps hcalled settling hsettling sourceId item
      rw [hsettling] at hindex
      cases hindex
      obtain ⟨nonempty, hitem⟩ := getElem?_bulkPlan item run.action false
      rw [hown.target, safeTarget_eq hkept nonempty]
      exact hitem
  | left inner index stream taken calls =>
      rw [stream]
      exact ⟨hinv.targets, hinv.handed⟩

/-- Whatever such a run hands over is accepted again. -/
theorem resumeInvariant_of_reachable {state : HarvestState context Stream}
    (hreach : run.system.ReachableUnder run.KeepsId state) :
    ResumeInvariant run.bulkRun state.stream := by
  induction hreach with
  | start initial =>
      obtain ⟨probe, rfl⟩ := initial
      exact resumeInvariant_start run.bulkRun probe
  | next prior event allowed taken ih => exact resumeInvariant_harvestStep ih allowed taken

/-- The checkpoint that a result carries was handed over last, or resumed from. -/
theorem resume_of_returns {state : HarvestState context Stream}
    {result : HarvestBulkResult context} (hreturns : run.Returns state result) :
    result.receipts = state.stream.ledger.emitted ∧
      result.resume = state.stream.ledger.handed.getLast?.or run.checkpoint := by
  obtain ⟨-, readings, hresult⟩ := hreturns
  unfold bulkResult at hresult
  cases hsummary : run.bulkRun.terminalSummary state.stream.ledger readings with
  | error error =>
      rw [hsummary] at hresult
      cases hresult
  | ok summary =>
      rw [hsummary] at hresult
      cases hresult
      exact ⟨rfl, rfl⟩

/-- The checkpoint that such a run carries is accepted again. -/
theorem accepted_of_returns {state : HarvestState context Stream}
    {result : HarvestBulkResult context}
    (hreach : run.system.ReachableUnder run.KeepsId state) (hreturns : run.Returns state result)
    {resume : BulkCheckpoint context.redaction.toRedaction} (hresume : result.resume = some resume) :
    validatePlan (bulkPlan run.action run.targets false) (some resume) = .ok () := by
  rw [(resume_of_returns hreturns).2] at hresume
  cases hlast : state.stream.ledger.handed.getLast? with
  | some handed =>
      rw [hlast] at hresume
      cases hresume
      exact ((resumeInvariant_of_reachable hreach).handed resume
        (List.mem_of_getLast? hlast)).accepted
  | none =>
      rw [hlast] at hresume
      have haccepted := run.accepted
      rw [show run.checkpoint = some resume from hresume] at haccepted
      exact haccepted

end HarvestRun

/-! ## Where a checkpoint comes from -/

/-- A call of `run_bulk` as far as it came. -/
structure PastRun (context : ReceiptContext) (Stream : Type) where
  run : HarvestRun context Stream
  state : HarvestState context Stream
  reached : run.system.Reachable state

/-- Where the checkpoint that a call is supplied with comes from. -/
inductive Lineage (context : ReceiptContext) (Stream : Type) :
    Option (BulkCheckpoint context.redaction.toRedaction) → Type
  | /-- The call is supplied with none. -/
    none : Lineage context Stream .none
  | /-- No run handed it over. -/
    given (checkpoint : BulkCheckpoint context.redaction.toRedaction) :
      Lineage context Stream (some checkpoint)
  | /-- A run handed it over, which was itself supplied with a checkpoint or not. -/
    handed (past : PastRun context Stream) (before : Lineage context Stream past.run.checkpoint)
      (checkpoint : BulkCheckpoint context.redaction.toRedaction)
      (member : checkpoint ∈ past.state.stream.ledger.handed) :
      Lineage context Stream (some checkpoint)

/-- The checkpoint reports no item as succeeded. -/
def ReportsNone {redaction : Redaction} (checkpoint : BulkCheckpoint redaction) : Prop :=
  ∀ item ∈ checkpoint.itemReceipts, item.receipt.outcome ≠ .succeeded

namespace Lineage

variable {checkpoint : Option (BulkCheckpoint context.redaction.toRedaction)}

/-- A run of the action that the checkpoint descends from sent a request for the source. -/
def SentBy (action : BulkAction) (sourceId : Text) :
    {checkpoint : Option (BulkCheckpoint context.redaction.toRedaction)} →
      Lineage context Stream checkpoint → Prop
  | _, none | _, given _ => False
  | _, handed past before _ _ =>
      (past.run.action = action ∧ past.run.SentBy past.state sourceId) ∨
        before.SentBy action sourceId

/-- Whatever successes the checkpoint reports come from runs of the action. -/
def Bound (action : BulkAction) :
    {checkpoint : Option (BulkCheckpoint context.redaction.toRedaction)} →
      Lineage context Stream checkpoint → Prop
  | _, none => True
  | _, given checkpoint => ReportsNone checkpoint
  | _, handed past before checkpoint _ =>
      ReportsNone checkpoint ∨ (past.run.action = action ∧ before.Bound action)

end Lineage

/-- Plans that are equal are for the same sources. -/
theorem sourceIds_of_plan {action other : BulkAction} {targets others : HarvestBulkTargets}
    (hplan : bulkPlan action targets false = bulkPlan other others false) :
    targets.sourceIds = others.sourceIds := by
  have hvalues : ∀ (action : BulkAction) (targets : HarvestBulkTargets),
      (bulkPlan action targets false).items.map CatalogId.value =
        targets.sourceIds.map String.ofList := by
    intro action targets
    rw [bulkPlan, List.map_map]
    exact List.attach_map_val (f := String.ofList)
  have hmapped := hvalues action targets
  rw [hplan, hvalues other others] at hmapped
  exact (List.map_injective_iff.mpr (fun _ _ => String.ofList_injective) hmapped).symm

namespace HarvestRun

/-- A run that resumes from a checkpoint that another handed over has the sources of that one. -/
theorem sourceIds_of_handed {past : PastRun context Stream}
    {checkpoint : BulkCheckpoint context.redaction.toRedaction}
    (hmember : checkpoint ∈ past.state.stream.ledger.handed)
    (hcheckpoint : run.checkpoint = some checkpoint) :
    past.run.targets.sourceIds = run.targets.sourceIds := by
  have hhanded : checkpoint.plan = bulkPlan past.run.action past.run.targets false :=
    (followed_of_reachable past.reached).plans checkpoint hmember
  have haccepted := ((validatePlan_eq_ok_iff _ _).mp run.accepted).2 checkpoint hcheckpoint
  exact sourceIds_of_plan (hhanded.symm.trans haccepted.1)

/-- A success that a run resumes from is one of a request, in a run that the checkpoint descends
from. -/
theorem sentBy_of_resumed {action : BulkAction}
    {checkpoint : Option (BulkCheckpoint context.redaction.toRedaction)}
    (lineage : Lineage context Stream checkpoint) (hbound : lineage.Bound action)
    (hcheckpoint : run.checkpoint = checkpoint) {index : Nat} {receipt : context.Receipt}
    (hresumed : run.bulkRun.resumed index = some receipt)
    (hsucceeded : receipt.outcome = .succeeded) :
    ∃ sourceId, run.targets.sourceIds[index]? = some sourceId ∧
      lineage.SentBy action sourceId := by
  -- the run that handed the checkpoint over completed the item, or resumed from it itself
  induction lineage generalizing run with
  | none =>
      obtain ⟨resumed, hsame, -⟩ := BulkRun.exists_of_resumed hresumed
      rw [show run.bulkRun.checkpoint = none from hcheckpoint] at hsame
      cases hsame
  | given checkpoint =>
      obtain ⟨resumed, hsame, hitem⟩ := BulkRun.exists_of_resumed hresumed
      rw [show run.bulkRun.checkpoint = some checkpoint from hcheckpoint] at hsame
      cases hsame
      exact absurd hsucceeded (hbound _ hitem)
  | handed past before checkpoint member ih =>
      obtain ⟨resumed, hsame, hitem⟩ := BulkRun.exists_of_resumed hresumed
      rw [show run.bulkRun.checkpoint = some checkpoint from hcheckpoint] at hsame
      cases hsame
      rcases hbound with hnone | ⟨haction, hbefore⟩
      · exact absurd hsucceeded (hnone _ hitem)
      rw [← sourceIds_of_handed member hcheckpoint]
      have hfollowed := followed_of_reachable past.reached
      have hcompleted := hfollowed.account.completed_of_handed member hitem
      rcases hfollowed.sent index receipt hcompleted hsucceeded with
        hearlier | ⟨sourceId, hsource, hsent⟩
      · obtain ⟨sourceId, hsource, hsent⟩ := ih hbefore rfl hearlier
        exact ⟨sourceId, hsource, .inr hsent⟩
      · exact ⟨sourceId, hsource, .inl ⟨haction, hsent⟩⟩

/-- A checkpoint that a call returns is accepted again, as long as the items that are run have
identifiers that a receipt keeps. A success that it returns is one of a request of its action,
in this run or in one that its checkpoint descends from, as long as that one is of its action. -/
theorem checkpoints_usable_and_bound (run : HarvestRun context Stream)
    (lineage : Lineage context Stream run.checkpoint) :
    (∀ state result, run.system.ReachableUnder run.KeepsId state → run.Returns state result →
      ∀ resume, result.resume = some resume →
        validatePlan (bulkPlan run.action run.targets false) (some resume) = .ok ()) ∧
      (lineage.Bound run.action → ∀ state result, run.system.Reachable state →
        run.Returns state result → ∀ item ∈ result.receipts, item.receipt.outcome = .succeeded →
          ∃ sourceId, run.targets.sourceIds[item.index]? = some sourceId ∧
            (run.SentBy state sourceId ∨ lineage.SentBy run.action sourceId)) := by
  refine ⟨fun state result hreach hreturns resume hresume =>
    accepted_of_returns hreach hreturns hresume, ?_⟩
  intro hbound state result hreach hreturns item hitem hsucceeded
  have hfollowed := followed_of_reachable hreach
  have hstream : run.bulkRun.system.Reachable state.stream := by
    rcases hfollowed.reached with hended | hreached
    · rw [hreturns.1] at hended
      cases hended
    · exact hreached
  rw [(resume_of_returns hreturns).1] at hitem
  rcases hfollowed.sent item.index item.receipt (completed_of_emitted hstream hitem) hsucceeded with
    hresumed | ⟨sourceId, hsource, hsent⟩
  · obtain ⟨sourceId, hsource, hsent⟩ := sentBy_of_resumed lineage hbound rfl hresumed hsucceeded
    exact ⟨sourceId, hsource, .inr hsent⟩
  · exact ⟨sourceId, hsource, .inl hsent⟩

end HarvestRun

/-! ## Runs over one source -/

/-- A source identifier of 65 characters. -/
def longId : Text := List.replicate 65 'a'

/-- A short source identifier. -/
def shortId : Text := "source".toList

/-- Nothing is redacted; the digests of the two identifiers. -/
def plainContext : ReceiptContext where
  redaction :=
    { containsCredentialContent := fun _ => false
      redactString := fun text => text
      otherText := "" }
  isPrintable _ := true
  digest text :=
    if text = longId then "635361c48bb9eab14198e76e".toList
    else "41cf6794ba4200b839c53531".toList
  noRedact := false
  isUDataCredential _ := true

def adminCredential : Credential where
  scope := "user:admin"
  authHeaders := [("X-API-KEY", "key")]

def adminPermissions : MutationPermissions where
  platform := "udata"
  scopes := []
  roles := ["admin"]
  authenticated := true
  operationScopes := []
  credentialScope := some "user:admin"

def harvestId : OperationId := ⟨"udata", "api-v1", "harvest-moderation-and-admin-operations"⟩

def harvestSpec : OperationSpec := ⟨harvestId, .admin, .admin⟩

/-- Only the harvest operation is declared. -/
def harvestProfile : DeclaredCapabilityProfile where
  operations id := if id = harvestId then some harvestSpec else none
  operations_id id operation hoperation := by
    split at hoperation
    · next hid =>
        cases hoperation
        exact hid.symm
    · cases hoperation

def harvestCapabilities : EffectiveCapabilityProfile where
  declaredProfile := harvestProfile
  capabilities id := if id = harvestId then some ⟨harvestSpec, .admin, none⟩ else none
  covers id := by
    unfold harvestProfile
    simp only
    split
    · rfl
    · rfl
  capabilities_id id operation hoperation := by
    split at hoperation
    · next hid =>
        cases hoperation
        exact hid.symm
    · cases hoperation

/-- A client of a deployment on the loopback interface. -/
def localClient : UDataClient where
  unicode := .ascii
  json := ⟨fun _ => none, fun _ => none, fun _ => none⟩
  redaction := plainContext.redaction
  origin := "http://localhost".toList
  declaredProfile := harvestProfile
  credentialsScope := "user:admin"
  budget := Retry.oneSecond
  maxAttempts := 1
  closed := false
  maxAttempts_pos := Nat.le_refl 1

def closedCircuit : CircuitState where
  failureThreshold := 5
  cooldown := 30
  threshold_pos := by decide
  cooldown_pos := by decide

theorem nonneg_of_none (delay : ℚ) (hdelay : delay ∈ (none : Option ℚ)) : 0 ≤ delay :=
  absurd hdelay (Option.not_mem_none delay)

/-- An answer without a body. -/
def noContent : RuntimeResponse where
  statusCode := 204
  headers := []
  body := []
  retryAfter := none
  statusCode_valid := rfl
  names_ne := List.forall_mem_nil _
  retryAfter_nonneg := nonneg_of_none

/-- Every request is answered with 204, and no time passes. -/
def calmEnvironment : CallEnvironment Unit
  | _, .readClock => .ok (0 : ℚ)
  | _, .refreshedCredential => .ok (some adminCredential)
  | _, .credentialScope => .ok "user:admin"
  | _, .resolve _ _ => .ok harvestCapabilities
  | _, .admitTrial _ | _, .acceptStatus _ => .ok true
  | _, .inspect _ | _, .recordTransportFailure _ | _, .recordResponse _ _ => .ok closedCircuit
  | _, .formBody => .ok []
  | _, .send _ | _, .dispatchControlled _ _ _ => .ok noContent
  | _, .requireCurrent | _, .invalidateCapabilities | _, .invalidateSiteGate
  | _, .setCredentialScope _ | _, .recordCapability _ _ _ | _, .releaseTrial _ | _, .sleep _
  | _, .emit _ => .ok ()

def oneSource (sourceId : Text) (nonempty : sourceId ≠ []) : HarvestBulkTargets where
  sourceIds := [sourceId]
  length_pos := Nat.le_refl 1
  length_le := by simp
  ids_ne _ hmem := List.mem_singleton.mp hmem ▸ nonempty
  nodup := List.nodup_singleton sourceId

theorem bulkTarget_ne (digest : Text → Text) (action : BulkAction) (sourceIds : List Text) :
    bulkTarget digest action sourceIds ≠ [] :=
  List.append_ne_nil_of_right_ne_nil _ (List.cons_ne_nil _ _)

/-- The plan over one source is confirmed. -/
def confirmedPolicy (action : BulkAction) (sourceId : Text) : MutationPolicy where
  destructive := action.destructive
  confirmation := some
    { confirmed := true
      operation := some harvestOperation
      target := some (bulkTarget plainContext.digest action [sourceId])
      operation_ne := harvestOperation_some_ne
      target_ne := some_ne_some_nil (bulkTarget_ne _ action _) }
  concurrency := some overwritePolicy
  idempotency := { key_ne := IdempotencyPolicy.none_ne_empty }
  dryRun := ⟨false⟩

/-- A run over one source by the synchronous service. -/
def oneSourceRun (action : BulkAction) (sourceId : Text) (nonempty : sourceId ≠ [])
    (checkpoint : Option (BulkCheckpoint plainContext.redaction.toRedaction))
    (authorized : (authorizePlan plainContext calmEnvironment action (some adminPermissions)
      (some (confirmedPolicy action sourceId)) settlementErrors (oneSource sourceId nonempty)
      (⟨[], ()⟩ : CallWorld Unit Unit)).1 = .ok ())
    (accepted : validatePlan (bulkPlan action (oneSource sourceId nonempty) false) checkpoint =
      .ok ()) : HarvestRun plainContext Unit where
  kind := .sync
  client := localClient
  action := action
  targets := oneSource sourceId nonempty
  permissions := some adminPermissions
  policy := some (confirmedPolicy action sourceId)
  executionPolicy := { maxParallelism := 1, bounded := by decide }
  checkpoint := checkpoint
  authorized := ⟨calmEnvironment, _, authorized⟩
  accepted := accepted

/-- The deletion of one source, from the start. -/
def deletion (sourceId : Text) (nonempty : sourceId ≠ [])
    (authorized : (authorizePlan plainContext calmEnvironment .deleteSource
      (some adminPermissions) (some (confirmedPolicy .deleteSource sourceId)) settlementErrors
      (oneSource sourceId nonempty) (⟨[], ()⟩ : CallWorld Unit Unit)).1 = .ok ()) :
    HarvestRun plainContext Unit :=
  oneSourceRun .deleteSource sourceId nonempty none authorized rfl

/-- The item is run and its receipt recorded, and the stream goes on to its end. -/
def deletionEvents : List (HarvestEvent plainContext.redaction.toRedaction Unit) :=
  [.stream (.dispatch {}), .stream (.dispatch {}), .stream (.wait [0]),
    .record (.called calmEnvironment false) {}, .stream .next, .stream (.finish {}),
    .stream .next]

namespace HarvestRun

/-- No budget is exhausted, and the clock stands still. -/
def stillReadings : SummaryReadings where
  runError := ⟨"exhausted", 0, Retry.oneSecond.total, le_rfl, Retry.oneSecond.total_pos⟩
  itemError := ⟨"exhausted", 0, Retry.oneSecond.total, le_rfl, Retry.oneSecond.total_pos⟩
  monitor := none
  now := 0
  startedAt := 0

/-- What a run returns in a state, if it returns there while the clock stands still. -/
def returned (run : HarvestRun context Stream) (state : HarvestState context Stream) :
    Option (HarvestBulkResult context) :=
  match state.stream.phase with
  | .ended .normal => (run.bulkResult state stillReadings).toOption
  | _ => none

theorem returns_of_returned {state : HarvestState context Stream}
    {result : HarvestBulkResult context} (hreturned : run.returned state = some result) :
    run.Returns state result := by
  unfold returned at hreturned
  split at hreturned
  · next hphase =>
      cases hresult : run.bulkResult state stillReadings with
      | error error =>
          rw [hresult] at hreturned
          cases hreturned
      | ok value =>
          rw [hresult] at hreturned
          cases hreturned
          exact ⟨hphase, stillReadings, hresult⟩
  · cases hreturned

end HarvestRun

theorem longId_ne : longId ≠ [] := by decide

theorem shortId_ne : shortId ≠ [] := by decide

/-- The deletion of the source with the long identifier. -/
def longDeletion : HarvestRun plainContext Unit := deletion longId longId_ne rfl

/-- The deletion of the source with the short identifier. -/
def shortDeletion : HarvestRun plainContext Unit := deletion shortId shortId_ne rfl

/-- The short deletion when it returns. -/
def shortDeleted : HarvestState plainContext Unit :=
  (shortDeletion.system.run ⟨shortDeletion.bulkRun.start {}, []⟩ deletionEvents).get (by
    decide +kernel)

theorem reachable_shortDeleted : shortDeletion.system.Reachable shortDeleted :=
  .of_run deletionEvents (.start ⟨{}, rfl⟩) (Option.some_get _).symm

/-- The checkpoint of the short deletion. -/
def shortResume : BulkCheckpoint plainContext.redaction.toRedaction :=
  shortDeleted.stream.ledger.handed.getLast (by decide +kernel)

/-- The source is to be run, from the checkpoint of its deletion. -/
def runBehindDeletion : HarvestRun plainContext Unit :=
  oneSourceRun .runSource shortId shortId_ne (some shortResume) rfl (by decide +kernel)

/-- Where its checkpoint comes from. -/
def deletionLineage : Lineage plainContext Unit runBehindDeletion.checkpoint :=
  .handed ⟨shortDeletion, shortDeleted, reachable_shortDeleted⟩ .none shortResume
    (List.getLast_mem _)

/-- The stream of the run goes to its end at once. -/
def resumedEvents : List (HarvestEvent plainContext.redaction.toRedaction Unit) :=
  [.stream .next, .stream (.finish {}), .stream .next]

/-- The checkpoint of a deletion of a source with a long identifier is refused when the deletion
is resumed. The checkpoint of a deletion is accepted by a run of the source, which reports a
success for which nothing was sent. -/
theorem resume_refused_and_unbound :
    (∃ state result resume, longDeletion.system.Reachable state ∧
        longDeletion.Returns state result ∧ result.resume = some resume ∧
        validatePlan (bulkPlan longDeletion.action longDeletion.targets false) (some resume) ≠
          .ok ()) ∧
      ∃ state result item, runBehindDeletion.system.Reachable state ∧
        runBehindDeletion.Returns state result ∧ item ∈ result.receipts ∧
        item.receipt.outcome = .succeeded ∧ ∀ sourceId,
          ¬ (runBehindDeletion.SentBy state sourceId ∨
            deletionLineage.SentBy runBehindDeletion.action sourceId) := by
  constructor
  · obtain ⟨state, hreach, htest⟩ := longDeletion.system.exists_reachable_of_run
      ⟨longDeletion.bulkRun.start {}, []⟩ ⟨{}, rfl⟩ deletionEvents
      (fun state => (longDeletion.returned state).any fun result =>
        result.resume.any fun resume => decide (validatePlan
          (bulkPlan longDeletion.action longDeletion.targets false) (some resume) ≠ .ok ()))
      (by decide +kernel)
    obtain ⟨result, hreturned, hresumed⟩ := (Option.any_eq_true _ _).mp htest
    obtain ⟨resume, hresume, hrefused⟩ := (Option.any_eq_true _ _).mp hresumed
    exact ⟨state, result, resume, hreach, HarvestRun.returns_of_returned hreturned, hresume,
      of_decide_eq_true hrefused⟩
  · obtain ⟨state, hreach, htest⟩ := runBehindDeletion.system.exists_reachable_of_run
      ⟨runBehindDeletion.bulkRun.start {}, []⟩ ⟨{}, rfl⟩ resumedEvents
      (fun state => (runBehindDeletion.returned state).any fun result =>
        state.calls.isEmpty && result.receipts.any fun item =>
          decide (item.receipt.outcome = .succeeded))
      (by decide +kernel)
    obtain ⟨result, hreturned, htested⟩ := (Option.any_eq_true _ _).mp htest
    obtain ⟨hcalls, hreceipts⟩ := Bool.and_eq_true_iff.mp htested
    obtain ⟨item, hitem, hsucceeded⟩ := List.any_eq_true.mp hreceipts
    refine ⟨state, result, item, hreach, HarvestRun.returns_of_returned hreturned, hitem,
      of_decide_eq_true hsucceeded, ?_⟩
    rintro sourceId (⟨history, hcall, -⟩ | ⟨haction, -⟩ | hnever)
    · rw [List.isEmpty_iff.mp hcalls] at hcall
      cases hcall
    · cases haction
    · exact hnever

/-- The short identifier is kept. -/
theorem keepsId_shortDeletion (state : HarvestState plainContext Unit)
    (event : HarvestEvent plainContext.redaction.toRedaction Unit) :
    shortDeletion.KeepsId state event := by
  intro _ index _ sourceId hsource
  rw [List.mem_singleton.mp (List.mem_of_getElem? (Option.mem_def.mp hsource))]
  decide +kernel

/-- The deletion of the short identifier returns a checkpoint that is accepted again, and a
success of a request that it sent. -/
theorem short_deletion_usable :
    ∃ state result resume item sourceId, shortDeletion.system.Reachable state ∧
      shortDeletion.Returns state result ∧ result.resume = some resume ∧
      item ∈ result.receipts ∧ item.receipt.outcome = .succeeded ∧
      validatePlan (bulkPlan shortDeletion.action shortDeletion.targets false) (some resume) =
        .ok () ∧
      shortDeletion.targets.sourceIds[item.index]? = some sourceId ∧
      (shortDeletion.SentBy state sourceId ∨
        (Lineage.none : Lineage plainContext Unit none).SentBy shortDeletion.action sourceId) := by
  obtain ⟨state, hreach, htest⟩ := shortDeletion.system.exists_reachableUnder_of_run
    shortDeletion.KeepsId ⟨shortDeletion.bulkRun.start {}, []⟩ ⟨{}, rfl⟩ deletionEvents
    (fun event _ state => keepsId_shortDeletion state event)
    (fun state => (shortDeletion.returned state).any fun result =>
      result.resume.isSome && result.receipts.any fun item =>
        decide (item.receipt.outcome = .succeeded))
    (by decide +kernel)
  obtain ⟨result, hreturned, htested⟩ := (Option.any_eq_true _ _).mp htest
  obtain ⟨hresumed, hreceipts⟩ := Bool.and_eq_true_iff.mp htested
  obtain ⟨resume, hresume⟩ := Option.isSome_iff_exists.mp hresumed
  obtain ⟨item, hitem, hsucceeded⟩ := List.any_eq_true.mp hreceipts
  have hreturns := HarvestRun.returns_of_returned hreturned
  obtain ⟨husable, hbound⟩ := shortDeletion.checkpoints_usable_and_bound Lineage.none
  obtain ⟨sourceId, hsource, hsent⟩ := hbound trivial state result hreach.reachable hreturns item
    hitem (of_decide_eq_true hsucceeded)
  exact ⟨state, result, resume, item, sourceId, hreach.reachable, hreturns, hresume, hitem,
    of_decide_eq_true hsucceeded, husable state result hreach hreturns resume hresume, hsource,
    hsent⟩

end DataSluice.Catalog.Udata
