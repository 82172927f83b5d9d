/-
# Resuming from a handed checkpoint

A later executor resumes from a checkpoint after `_validate_plan` has compared it
with the plan, target by target. The executor that wrote it compared nothing: a
`MutationReceipt` is recorded for the item whatever target it names. So the
checkpoints of a run are accepted again as long as each receipt that `execute_item`
returned is for the item it was called with.

What one step does to the completed receipts and to the sink is read off its `StepEffect`.
-/

import DataSluice.Runtime.BulkSteps

namespace DataSluice.Runtime

open DataSluice.Lib DataSluice.Domain

variable {redaction : Redaction} {run : BulkRun redaction} {ledger : BulkLedger redaction}

/-- A receipt that `execute_item` returns is for the item it was called with. -/
def OwnReceipt (run : BulkRun redaction) (state : BulkState redaction)
    (event : BulkEvent redaction) : Prop :=
  ∀ index ∈ state.settlingIndex, ∀ receipt ∈ event.returnedReceipt,
    run.plan.items[index]? = some receipt.target

/-- A new executor accepts the checkpoint, and it survives its envelope. -/
structure Resumable (plan : BulkPlan) (checkpoint : BulkCheckpoint redaction) : Prop where
  accepted : validatePlan plan (some checkpoint) = .ok ()
  roundTrip : BulkCheckpoint.fromDict checkpoint.toDict = .ok checkpoint

/-! ## Accepted checkpoints -/

/-- Every receipt names the item of its index. -/
def TargetsOk (run : BulkRun redaction)
    (receipts : Nat → Option (MutationReceipt redaction)) : Prop :=
  ∀ index receipt, receipts index = some receipt →
    run.plan.items[index]? = some receipt.target

/-- A checkpoint that is built from receipts of their own items is accepted again. -/
theorem TargetsOk.resumable {receipts : Nat → Option (MutationReceipt redaction)}
    (htargets : TargetsOk run receipts) (cancellation : Bool) :
    Resumable run.plan (run.buildCheckpoint receipts cancellation) := by
  refine ⟨?_, BulkCheckpoint.fromDict_toDict _⟩
  rw [validatePlan_eq_ok_iff]
  refine ⟨((validatePlan_eq_ok_iff run.plan run.checkpoint).mp run.accepted).1, ?_⟩
  rintro _ ⟨⟩
  exact ⟨rfl, fun item hitem =>
    htargets item.index item.receipt (mem_completedReceipts.mp hitem).2⟩

/-- The receipts that a run resumes from name their items. -/
theorem targetsOk_resumed (run : BulkRun redaction) : TargetsOk run run.resumed := by
  intro index receipt hresumed
  have haccepted := ((validatePlan_eq_ok_iff run.plan run.checkpoint).mp run.accepted).2
  have hitem := BulkRun.mem_of_resumed hresumed
  rw [BulkRun.resumedReceipts] at hitem
  split at hitem
  · cases hitem
  · next checkpoint hcheckpoint => exact (haccepted checkpoint hcheckpoint).2 _ hitem

/-- A step whose returned receipt is for its item keeps every receipt at its item. -/
theorem TargetsOk.step {source target : BulkState redaction} {event : BulkEvent redaction}
    (htargets : TargetsOk run source.ledger.completed) (hown : OwnReceipt run source event)
    (heffect : StepEffect run source event target) : TargetsOk run target.ledger.completed := by
  rcases heffect.completed with hsame | ⟨index, receipt, hindex, hrecorded, hupdate⟩
  · rw [hsame]
    exact htargets
  · have hitem : run.plan.items[index]? = some receipt.target := by
      rcases hrecorded with hreturned | ⟨item, exhausted, hitem, rfl⟩
      · exact hown index hindex receipt hreturned
      · exact hitem
    rw [hupdate]
    intro other value hvalue
    by_cases hne : other = index
    · subst hne
      rw [Function.update_self] at hvalue
      cases hvalue
      exact hitem
    · rw [Function.update_of_ne hne] at hvalue
      exact htargets other value hvalue

/-- The invariant of a run whose receipts are for their items. -/
structure ResumeInvariant (run : BulkRun redaction) (state : BulkState redaction) : Prop where
  targets : TargetsOk run state.ledger.completed
  handed : ∀ checkpoint ∈ state.ledger.handed, Resumable run.plan checkpoint

theorem resumeInvariant_start (run : BulkRun redaction) (probe : Probe) :
    ResumeInvariant run (run.start probe) := by
  have hsilent := silent_emit run (run.initialLedger probe) .start
  refine ⟨?_, ?_⟩
  · rw [BulkRun.start, hsilent.completed]
    exact targetsOk_resumed run
  · rw [BulkRun.start, hsilent.handed]
    intro checkpoint hcheckpoint
    cases hcheckpoint

/-- A step whose returned receipt is for its item hands over a checkpoint that is accepted
again, or none. -/
theorem resumeInvariant_step {source target : BulkState redaction} {event : BulkEvent redaction}
    (hinv : ResumeInvariant run source) (hown : OwnReceipt run source event)
    (hstep : run.step source event = some target) : ResumeInvariant run target := by
  have heffect := stepEffect_of_step hstep
  have htargets := hinv.targets.step hown heffect
  refine ⟨htargets, ?_⟩
  intro checkpoint hcheckpoint
  rcases heffect.handed with hsame | ⟨cancellation, hadded⟩
  · rw [hsame] at hcheckpoint
    exact hinv.handed checkpoint hcheckpoint
  · rw [hadded, List.mem_append, List.mem_singleton] at hcheckpoint
    rcases hcheckpoint with hbefore | rfl
    · exact hinv.handed checkpoint hbefore
    · exact htargets.resumable cancellation

/-- The checkpoint that is handed over with a receipt for another item is refused. -/
theorem rejected_of_foreign {receipts : Nat → Option (MutationReceipt redaction)} {index : Nat}
    {receipt : MutationReceipt redaction} (hreceipt : receipts index = some receipt)
    (hindex : index < run.total) (hforeign : run.plan.items[index]? ≠ some receipt.target)
    (cancellation : Bool) :
    validatePlan run.plan (some (run.buildCheckpoint receipts cancellation)) ≠ .ok () := by
  intro haccepted
  have htargets := (((validatePlan_eq_ok_iff _ _).mp haccepted).2 _ rfl).2
  exact hforeign (htargets ⟨index, receipt⟩ (mem_completedReceipts.mpr ⟨hindex, hreceipt⟩))

/-- With checkpoints required, a recorded receipt is handed over at once. -/
theorem handed_recordResult (hrequired : run.policy.checkpointRequired = true)
    (ledger : BulkLedger redaction) (index : Nat) (done : List Nat)
    (result : ItemResult redaction) (probe : Probe) :
    ∃ cancellation, run.buildCheckpoint
      (Function.update ledger.completed index (some result.receipt)) cancellation ∈
        (run.recordResult ledger index done result probe).ledger.handed := by
  obtain ⟨reason, hrefresh⟩ := run.refreshStopState_eq (BulkRun.complete ledger index result)
    probe (!ledger.pending.isEmpty)
  refine ⟨reason = some .cancelled, ?_⟩
  simp only [BulkRun.recordResult, hrefresh]
  rw [BulkRun.persist, if_pos hrequired]
  split
  · exact List.mem_append_right _ (List.mem_singleton.mpr rfl)
  · rw [(silent_afterRecord run _ done).handed]
    exact List.mem_append_right _ (List.mem_singleton.mpr rfl)

/-- A receipt for another item that is recorded is handed over in a checkpoint that no
executor resumes from. -/
theorem foreign_record_rejected (hrequired : run.policy.checkpointRequired = true)
    {source target : BulkState redaction} {item : ItemRun redaction} {probe : Probe}
    (hreach : run.system.Reachable source)
    (hforeign : ¬ OwnReceipt run source (.record item probe))
    (hstep : run.step source (.record item probe) = some target) :
    ∃ checkpoint ∈ target.ledger.handed, validatePlan run.plan (some checkpoint) ≠ .ok () := by
  obtain ⟨haccount, hphase⟩ := reachable_invariant hreach
  obtain ⟨ledger, phase⟩ := source
  match phase, item with
  | .collecting (index :: done), .called (.returned receipt) budget =>
      simp only [BulkRun.step, Option.bind_eq_bind, Option.bind_eq_some_iff] at hstep
      obtain ⟨catalogId, -, htaken⟩ := hstep
      cases htaken
      have hlt : index < run.total :=
        haccount.inFlight_lt index (hphase.2.2.2.inFlight List.mem_cons_self)
      have htarget : run.plan.items[index]? ≠ some receipt.target := by
        intro hitem
        refine hforeign ?_
        rintro _ ⟨⟩ _ ⟨⟩
        exact hitem
      obtain ⟨cancellation, hhanded⟩ :=
        handed_recordResult hrequired ledger index done ⟨receipt, budget⟩ probe
      exact ⟨_, hhanded, rejected_of_foreign (Function.update_self ..) hlt htarget cancellation⟩
  | _, .preflightExhausted | _, .called .returnedOther _ | _, .called .raisedBudgetExhausted _ |
    _, .called .raised _ | _, .called .raisedCancelled _ =>
      refine absurd ?_ hforeign
      rintro _ _ _ ⟨⟩
  | .collecting [], _ | .yielding _ _, _ | .dispatching, _ | .waiting, _ | .storing _, _ |
    .finishing, _ | .storingLast, _ | .draining, _ | .cleanup _, _ | .storingFinal _ _, _ |
    .ended _, _ => cases hstep

/-- In a run whose receipts are for their items every checkpoint handed to the sink is
accepted by a new executor and survives its envelope. The envelope is read back in
every run; a recorded receipt for another item makes the checkpoint that is handed
over with it unusable. -/
theorem handed_checkpoints_resumable (run : BulkRun redaction) :
    (∀ state, run.system.ReachableUnder (OwnReceipt run) state →
        ∀ checkpoint ∈ state.ledger.handed, Resumable run.plan checkpoint) ∧
      (∀ state, run.system.Reachable state → ∀ checkpoint ∈ state.ledger.handed,
        BulkCheckpoint.fromDict checkpoint.toDict = .ok checkpoint) ∧
      (run.policy.checkpointRequired = true → ∀ source item probe target,
        run.system.Reachable source → ¬ OwnReceipt run source (.record item probe) →
          run.step source (.record item probe) = some target →
            ∃ checkpoint ∈ target.ledger.handed,
              validatePlan run.plan (some checkpoint) ≠ .ok ()) := by
  refine ⟨?_, ?_, ?_⟩
  · intro state hreach
    have hinv : ResumeInvariant run state := by
      refine System.ReachableUnder.invariant ?_ ?_ hreach
      · rintro _ ⟨probe, rfl⟩
        exact resumeInvariant_start run probe
      · intro source event target hsource hown hstep
        exact resumeInvariant_step hsource hown hstep
    exact hinv.handed
  · intro state _ checkpoint _
    exact checkpoint.fromDict_toDict
  · intro hrequired source item probe target hreach hforeign hstep
    exact foreign_record_rejected hrequired hreach hforeign hstep

/-! ## Receipts of the two-item run -/

/-- Both items are dispatched and the first one's task finishes. -/
def firstFinished : List (BulkEvent plainRedaction) :=
  [.dispatch {}, .dispatch {}, .dispatch {}, .wait [0]]

/-- `execute_item` returns the receipt of a deletion. -/
def returnsDeleted (value : String) (nonempty : value ≠ "") : BulkEvent plainRedaction :=
  .record (.called (.returned (deletedReceipt (datasetId value nonempty))) false) {}

/-- The call for the first item returns a receipt for the second, which is handed over
in a checkpoint that `_validate_plan` refuses. -/
theorem foreign_receipt_refused :
    ∃ state, (twoItemRun .sync).system.Reachable state ∧
      ∃ checkpoint ∈ state.ledger.handed,
        validatePlan (twoItemRun .sync).plan (some checkpoint) ≠ .ok () := by
  obtain ⟨state, hreach, htest⟩ := (twoItemRun .sync).system.exists_reachable_of_run
    ((twoItemRun .sync).start {}) ⟨{}, rfl⟩
    (firstFinished ++ [returnsDeleted "second" (by decide)])
    (fun state => state.ledger.handed.any fun checkpoint =>
      decide (validatePlan (twoItemRun .sync).plan (some checkpoint) ≠ .ok ()))
    (by decide +kernel)
  obtain ⟨checkpoint, hcheckpoint, hrefused⟩ := List.any_eq_true.mp htest
  exact ⟨state, hreach, checkpoint, hcheckpoint, of_decide_eq_true hrefused⟩

/-- The stream before the first item's receipt is recorded. -/
def firstCollected : BulkState plainRedaction :=
  ((twoItemRun .sync).system.run ((twoItemRun .sync).start {}) firstFinished).get (by
    decide +kernel)

/-- The stream after the call for the first item returned the receipt of `value`. -/
def firstRecorded (value : String) (nonempty : value ≠ "") : BulkState plainRedaction :=
  ((twoItemRun .sync).step firstCollected (returnsDeleted value nonempty)).get rfl

/-- With the receipt of its own item the checkpoint is accepted and read back, and with
the other one it is refused. -/
theorem own_receipt_resumable :
    (∃ state checkpoint, ((twoItemRun .sync).system.ReachableUnder
        (OwnReceipt (twoItemRun .sync)) state ∧ checkpoint ∈ state.ledger.handed) ∧
        Resumable (twoItemRun .sync).plan checkpoint ∧
        BulkCheckpoint.fromDict checkpoint.toDict = .ok checkpoint) ∧
      ∃ source target, ((twoItemRun .sync).system.Reachable source ∧
        ¬ OwnReceipt (twoItemRun .sync) source (returnsDeleted "second" (by decide)) ∧
        (twoItemRun .sync).step source (returnsDeleted "second" (by decide)) = some target) ∧
        ∃ checkpoint ∈ target.ledger.handed,
          validatePlan (twoItemRun .sync).plan (some checkpoint) ≠ .ok () := by
  have hresume := handed_checkpoints_resumable (twoItemRun .sync)
  have hreach : (twoItemRun .sync).system.ReachableUnder (OwnReceipt (twoItemRun .sync))
      firstCollected := by
    refine .of_run firstFinished ?_ (.start ⟨{}, rfl⟩) (Option.some_get _).symm
    simp [firstFinished, OwnReceipt, BulkEvent.returnedReceipt]
  refine ⟨?_, ?_⟩
  · have hown : OwnReceipt (twoItemRun .sync) firstCollected
        (returnsDeleted "first" (by decide)) := by
      rintro _ ⟨⟩ _ ⟨⟩
      rfl
    have hrecorded : (twoItemRun .sync).system.ReachableUnder (OwnReceipt (twoItemRun .sync))
        (firstRecorded "first" (by decide)) := hreach.take _ hown rfl
    have hhanded : 0 < (firstRecorded "first" (by decide)).ledger.handed.length := by
      decide +kernel
    obtain ⟨checkpoint, hcheckpoint⟩ := List.exists_mem_of_length_pos hhanded
    exact ⟨_, checkpoint, ⟨hrecorded, hcheckpoint⟩, hresume.1 _ hrecorded _ hcheckpoint,
      hresume.2.1 _ hrecorded.reachable _ hcheckpoint⟩
  · have hforeign : ¬ OwnReceipt (twoItemRun .sync) firstCollected
        (returnsDeleted "second" (by decide)) := by
      intro hown
      exact absurd (hown 0 rfl _ rfl) (by decide +kernel)
    have htaken : (twoItemRun .sync).step firstCollected (returnsDeleted "second" (by decide)) =
        some (firstRecorded "second" (by decide)) := (Option.some_get _).symm
    exact ⟨firstCollected, _, ⟨hreach.reachable, hforeign, htaken⟩,
      hresume.2.2 rfl _ _ _ _ hreach.reachable hforeign htaken⟩

end DataSluice.Runtime
