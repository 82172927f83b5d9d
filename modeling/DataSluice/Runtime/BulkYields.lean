/-
# What a bulk stream yields

The receipts that a stream has yielded, and those of the loop that it is yielding from, are
completed receipts: a loop over ordered receipts takes them from the completed ones, and a
completed receipt is never replaced. So whatever the consumer is given is in the account of the
run, under the same index.
-/

import DataSluice.Runtime.BulkSteps

namespace DataSluice.Runtime

open DataSluice.Lib DataSluice.Domain

variable {redaction : Redaction} {run : BulkRun redaction} {ledger : BulkLedger redaction}

/-- A stream that has ended takes no further step. -/
theorem step_ended (run : BulkRun redaction) (ledger : BulkLedger redaction) (ending : Ending)
    (event : BulkEvent redaction) : run.step ⟨ledger, .ended ending⟩ event = none := by
  cases event with
  | cancel =>
      simp only [BulkRun.step]
      cases run.kind with
      | sync => rfl
      | async => rfl
  | _ => rfl

/-- The task that settles next is in flight. -/
theorem inFlight_of_settlingIndex {state : BulkState redaction} {index : Nat}
    (hinv : BulkInvariant run False state) (hindex : state.settlingIndex = some index) :
    index ∈ state.ledger.inFlight := by
  obtain ⟨ledger, phase⟩ := state
  cases phase with
  | collecting done => exact hinv.phase.2.2.2.inFlight (List.mem_of_mem_head? hindex)
  | draining | cleanup _ => exact List.mem_of_mem_head? hindex
  | _ => cases hindex

/-- A completed receipt is not replaced. -/
theorem completed_step {source target : BulkState redaction} {event : BulkEvent redaction}
    (hinv : BulkInvariant run False source) (hstep : run.step source event = some target)
    {index : Nat} {receipt : MutationReceipt redaction}
    (hreceipt : source.ledger.completed index = some receipt) :
    target.ledger.completed index = some receipt := by
  rcases (stepEffect_of_step hstep).completed with
    hsame | ⟨settling, recorded, hsettling, -, hupdate⟩
  · rw [hsame]
    exact hreceipt
  · have hopen := hinv.account.inFlight_open settling (inFlight_of_settlingIndex hinv hsettling)
    have hne : index ≠ settling := by
      intro hsame
      rw [hsame, hopen] at hreceipt
      cases hreceipt
    rw [hupdate, Function.update_of_ne hne]
    exact hreceipt

/-- A success behind a step was there before, or the call of the settling index returned it. -/
theorem succeeded_step {source target : BulkState redaction} {event : BulkEvent redaction}
    (hstep : run.step source event = some target) {index : Nat}
    {receipt : MutationReceipt redaction}
    (hcompleted : target.ledger.completed index = some receipt)
    (hsucceeded : receipt.outcome = .succeeded) :
    source.ledger.completed index = some receipt ∨
      source.settlingIndex = some index ∧ event.returnedReceipt = some receipt := by
  rcases (stepEffect_of_step hstep).completed with
    hsame | ⟨settling, recorded, hsettling, hrecorded, hupdate⟩
  · rw [hsame] at hcompleted
    exact .inl hcompleted
  · rw [hupdate] at hcompleted
    by_cases hsame : index = settling
    · subst hsame
      rw [Function.update_self] at hcompleted
      cases hcompleted
      rcases hrecorded with hreturned | ⟨item, exhausted, -, rfl⟩
      · exact .inr ⟨hsettling, hreturned⟩
      · cases hsucceeded
    · rw [Function.update_of_ne hsame] at hcompleted
      exact .inl hcompleted

/-- What a run resumes from is in its checkpoint. -/
theorem BulkRun.exists_of_resumed {index : Nat} {receipt : MutationReceipt redaction}
    (hresumed : run.resumed index = some receipt) :
    ∃ checkpoint, run.checkpoint = some checkpoint ∧
      ⟨index, receipt⟩ ∈ checkpoint.itemReceipts := by
  have hitem := BulkRun.mem_of_resumed hresumed
  rw [BulkRun.resumedReceipts] at hitem
  split at hitem
  · cases hitem
  · next checkpoint hcheckpoint => exact ⟨checkpoint, hcheckpoint, hitem⟩

/-- The receipts of a checkpoint that was handed over are completed. -/
theorem Account.completed_of_handed (haccount : Account run ledger)
    {checkpoint : BulkCheckpoint redaction} (hcheckpoint : checkpoint ∈ ledger.handed)
    {item : BulkItemReceipt redaction} (hitem : item ∈ checkpoint.itemReceipts) :
    ledger.completed item.index = some item.receipt := by
  have hgrow : (run.resumedReceipts ::
      ledger.handed.map BulkCheckpoint.itemReceipts).Pairwise (· ⊆ ·) :=
    haccount.handed_grow.pairwise
  have hlast := hgrow.rel_getLast_of_rel_getLast_getLast
    (List.mem_cons_of_mem _ (List.mem_map_of_mem hcheckpoint)) (List.Subset.refl _)
  rw [run.lastReceipts_eq_getLast] at hlast
  exact haccount.last_kept item (hlast hitem)

/-- The checkpoints that a step hands over have the plan of the run. -/
theorem plan_handed_step {source target : BulkState redaction} {event : BulkEvent redaction}
    (hplans : ∀ checkpoint ∈ source.ledger.handed, checkpoint.plan = run.plan)
    (hstep : run.step source event = some target) :
    ∀ checkpoint ∈ target.ledger.handed, checkpoint.plan = run.plan := by
  intro checkpoint hcheckpoint
  rcases (stepEffect_of_step hstep).handed with hsame | ⟨cancellation, hadded⟩
  · exact hplans checkpoint (hsame ▸ hcheckpoint)
  · rw [hadded, List.mem_append, List.mem_singleton] at hcheckpoint
    rcases hcheckpoint with hbefore | rfl
    · exact hplans checkpoint hbefore
    · rfl

/-- Whatever a run shows is completed. -/
theorem completed_of_shown {state : BulkState redaction} (hreach : run.system.Reachable state) :
    ∀ item ∈ state.shown, state.ledger.completed item.index = some item.receipt := by
  induction hreach with
  | @start state initial =>
      obtain ⟨probe, rfl⟩ := initial
      intro item hitem
      rcases (silent_emit run (run.initialLedger probe) .start).shown item hitem with
        hbefore | hnew
      · cases hbefore
      · exact hnew
  | @next source target prior event allowed taken ih =>
      intro item hitem
      rcases (stepEffect_of_step taken).shown item hitem with hbefore | hnew
      · exact completed_step (reachable_invariant prior) taken (ih item hbefore)
      · exact hnew

/-- Whatever a run has yielded is completed. -/
theorem completed_of_emitted {state : BulkState redaction} (hreach : run.system.Reachable state)
    {item : BulkItemReceipt redaction} (hitem : item ∈ state.ledger.emitted) :
    state.ledger.completed item.index = some item.receipt := by
  apply completed_of_shown hreach
  unfold BulkState.shown
  split
  · exact List.mem_append_left _ hitem
  · exact hitem

end DataSluice.Runtime
