/-
# The terminal summary

The last value of a bulk stream is a `BulkSummary`, which `_summary` makes of the receipts
that are known then: those of the checkpoint and those of this run. It counts the items that
succeeded, failed and were skipped. A receipt may have three more outcomes, which no counter
of the summary takes.

Beside the counters a summary says how long the run took, what its budget was and why it
stopped. The errors and the clock that it says this from are `SummaryReadings`.
-/

import Mathlib.Algebra.Order.Field.Rat
import DataSluice.Runtime.BulkSteps

namespace DataSluice.Runtime

open DataSluice.Lib DataSluice.Domain

variable {redaction : Redaction}

/-! ## The record -/

/-- The names of the terminal states. -/
inductive SummaryState
  | completed
  | cancelled
  | budgetExhausted
  deriving DecidableEq

/-- A `BudgetExhaustedError`, with what its constructor checks. -/
structure BudgetError where
  message : String
  elapsedSeconds : ℚ
  budgetSeconds : ℚ
  elapsedSeconds_nonneg : 0 ≤ elapsedSeconds
  budgetSeconds_pos : 0 < budgetSeconds
  deriving DecidableEq

/-- `BulkSummary` -/
structure BulkSummary where
  total : Nat
  succeeded : Nat
  failed : Nat
  skipped : Nat
  settled : Int
  outstanding : Int
  dispatches : Nat
  state : SummaryState
  cancelled : Bool
  budgetExhausted : Bool
  elapsedSeconds : ℚ
  budgetSeconds : Option ℚ
  reason : Option String
  budgetError : Option BudgetError
  deriving DecidableEq

namespace BulkSummary

/-- The settled and the outstanding count; one that is not given is derived. -/
def counts (total succeeded failed skipped : Nat) : Option Int → Option Int → Int × Int
  | none, none =>
      let settled : Int := succeeded + failed + skipped
      (settled, total - settled)
  | none, some outstanding => (total - outstanding, outstanding)
  | some settled, none => (settled, total - settled)
  | some settled, some outstanding => (settled, outstanding)

/-- `__post_init__` on the counts that were derived. -/
def postInit (summary : BulkSummary) : Except String BulkSummary :=
  if summary.settled < 0 ∨ summary.outstanding < 0 then
    .error "Bulk summary counts must be non-negative integers."
  else if summary.cancelled = true ∧ summary.state = .completed then
    .ok { summary with state := .cancelled }
  else if summary.budgetExhausted = true ∧ summary.state = .completed then
    .ok { summary with state := .budgetExhausted }
  else .ok summary

/-- The constructor changes no counter. -/
theorem postInit_ok {summary : BulkSummary} (hsettled : 0 ≤ summary.settled)
    (houtstanding : 0 ≤ summary.outstanding) :
    ∃ state, summary.postInit = .ok { summary with state := state } := by
  rw [postInit, if_neg (by omega)]
  split
  · exact ⟨_, rfl⟩
  · split
    · exact ⟨_, rfl⟩
    · exact ⟨summary.state, rfl⟩

end BulkSummary

/-! ## Counting receipts -/

/-- The outcomes that a summary has a counter for. -/
def isCounted : Outcome → Bool
  | .succeeded | .failed | .skipped => true
  | .rejected | .cancelled | .ambiguous => false

/-- `outcomes.count(outcome)` -/
def outcomeCount (receipts : List (BulkItemReceipt redaction)) (outcome : Outcome) : Nat :=
  (receipts.map fun item => item.receipt.outcome).count outcome

/-- What `_summary` reads beside the receipts: the budget errors of the run and of an item, for
when there is one, the total budget of the run with the time that its monitor finds left, if the
run has a monitor, and the clock now and at the start. -/
structure SummaryReadings where
  runError : BudgetError
  itemError : BudgetError
  monitor : Option (ℚ × ℚ)
  now : ℚ
  startedAt : ℚ

namespace SummaryReadings

variable (readings : SummaryReadings) (stopReason : Option StopReason) (itemBudgetError : Bool)

/-- `budget_error or item_budget_error`: the run has an error when its budget stopped it. -/
def terminalBudgetError : Option BudgetError :=
  if stopReason = some .budgetExhausted then some readings.runError
  else if itemBudgetError = true then some readings.itemError
  else none

/-- The elapsed seconds and those of the budget. -/
def times : Option BudgetError → ℚ × Option ℚ
  | some error => (error.elapsedSeconds, some error.budgetSeconds)
  | none =>
      match readings.monitor with
      | some (total, remaining) => (max 0 (total - remaining), some total)
      | none => (max 0 (readings.now - readings.startedAt), none)

/-- The reason that the summary gives. -/
def reason : Option String :=
  if stopReason = some .cancelled then
    some "Bulk execution was cancelled after in-flight items settled."
  else (readings.terminalBudgetError stopReason itemBudgetError).map BudgetError.message

end SummaryReadings

/-- `_summary` -/
def summary (receipts : List (BulkItemReceipt redaction)) (total dispatches : Nat)
    (stopReason : Option StopReason) (itemBudgetError : Bool) (readings : SummaryReadings) :
    Except String BulkSummary :=
  let terminalBudgetError := readings.terminalBudgetError stopReason itemBudgetError
  let times := readings.times terminalBudgetError
  let budgetExhausted := stopReason = some .budgetExhausted || itemBudgetError
  let succeeded := outcomeCount receipts .succeeded
  let failed := outcomeCount receipts .failed
  let skipped := outcomeCount receipts .skipped
  let counts := BulkSummary.counts total succeeded failed skipped (some receipts.length)
    (some (total - receipts.length))
  BulkSummary.postInit
    { total, succeeded, failed, skipped
      settled := counts.1
      outstanding := counts.2
      dispatches
      state :=
        match stopReason with
        | some .cancelled => .cancelled
        | some .budgetExhausted => .budgetExhausted
        | none => if budgetExhausted then .budgetExhausted else .completed
      cancelled := stopReason = some .cancelled
      budgetExhausted
      elapsedSeconds := times.1
      budgetSeconds := times.2
      reason := readings.reason stopReason itemBudgetError
      budgetError := terminalBudgetError }

/-- The summary of receipts of so many items: its counters as `_summary` computes them. -/
theorem exists_summary (receipts : List (BulkItemReceipt redaction)) {total : Nat}
    (hlength : receipts.length ≤ total) (dispatches : Nat) (stopReason : Option StopReason)
    (itemBudgetError : Bool) (readings : SummaryReadings) :
    ∃ result, summary receipts total dispatches stopReason itemBudgetError readings = .ok result ∧
      result.total = total ∧ result.succeeded = outcomeCount receipts .succeeded ∧
      result.failed = outcomeCount receipts .failed ∧
      result.skipped = outcomeCount receipts .skipped ∧ result.settled = receipts.length ∧
      result.outstanding = total - receipts.length ∧ result.dispatches = dispatches := by
  have hsettled : (0 : Int) ≤ receipts.length := by omega
  have houtstanding : (0 : Int) ≤ total - receipts.length := by omega
  exact (BulkSummary.postInit_ok hsettled houtstanding).elim fun state hstate =>
    ⟨_, hstate, rfl, rfl, rfl, rfl, rfl, rfl, rfl⟩

/-- A summary says a reason exactly when it says that the run did not complete, and the time
that it gives is not negative. -/
theorem summary_explained {receipts : List (BulkItemReceipt redaction)} {total dispatches : Nat}
    {stopReason : Option StopReason} {itemBudgetError : Bool} {readings : SummaryReadings}
    {result : BulkSummary}
    (hresult : summary receipts total dispatches stopReason itemBudgetError readings = .ok result) :
    (result.reason = none ↔ result.state = .completed) ∧ 0 ≤ result.elapsedSeconds := by
  have htimes : ∀ error, 0 ≤ (readings.times error).1 := by
    intro error
    unfold SummaryReadings.times
    cases error with
    | some error => exact error.elapsedSeconds_nonneg
    | none =>
        cases readings.monitor with
        | some monitor => exact le_max_left _ _
        | none => exact le_max_left _ _
  simp only [summary, BulkSummary.postInit] at hresult
  split at hresult
  · cases hresult
  · match stopReason, itemBudgetError with
    | none, false =>
        cases hresult
        exact ⟨iff_of_true rfl rfl, htimes _⟩
    | none, true | some .cancelled, false | some .cancelled, true | some .budgetExhausted, false |
      some .budgetExhausted, true =>
        cases hresult
        exact ⟨iff_of_false nofun nofun, htimes _⟩

/-- The three counters take the receipts whose outcome is counted. -/
theorem outcomeCount_add (receipts : List (BulkItemReceipt redaction)) :
    outcomeCount receipts .succeeded + outcomeCount receipts .failed +
      outcomeCount receipts .skipped =
        receipts.countP fun item => isCounted item.receipt.outcome := by
  induction receipts with
  | nil => rfl
  | cons item receipts ih =>
      rw [List.countP_cons, ← ih]
      simp only [outcomeCount, List.map_cons, List.count_cons]
      cases item.receipt.outcome <;> simp [isCounted] <;> omega

/-- They add up to all receipts exactly when every outcome is counted. -/
theorem outcomeCount_add_eq_length_iff (receipts : List (BulkItemReceipt redaction)) :
    outcomeCount receipts .succeeded + outcomeCount receipts .failed +
      outcomeCount receipts .skipped = receipts.length ↔
        ∀ item ∈ receipts, isCounted item.receipt.outcome = true := by
  rw [outcomeCount_add, List.countP_eq_length]

/-! ## The items that a run takes -/

namespace BulkRun

variable (run : BulkRun redaction)

/-- `_terminal_summary` -/
def terminalSummary (ledger : BulkLedger redaction) (readings : SummaryReadings) :
    Except String BulkSummary :=
  summary (completedReceipts run.total ledger.completed) run.total ledger.dispatches
    ledger.stopReason ledger.itemBudgetError readings

/-- The items without a receipt of the checkpoint. -/
def pendingAtStart : List Nat :=
  (List.range run.total).filter fun index => (run.resumed index).isNone

end BulkRun

/-- The items that were taken are the first of those that were pending, and are counted. -/
structure Taken (run : BulkRun redaction) (ledger : BulkLedger redaction) : Prop where
  order : ledger.dispatched ++ ledger.pending = run.pendingAtStart
  dispatches : ledger.dispatches = ledger.dispatched.length

variable {run : BulkRun redaction} {ledger target : BulkLedger redaction}

theorem Taken.same (htaken : Taken run ledger) (hsame : SameQueue ledger target) :
    Taken run target := by
  constructor
  · rw [hsame.dispatched, hsame.pending, htaken.order]
  · rw [hsame.dispatches, hsame.dispatched, htaken.dispatches]

theorem Taken.next {index : Nat} (htaken : Taken run ledger)
    (hnext : TakesNext ledger target index) : Taken run target where
  order := by
    rw [hnext.dispatched, List.append_assoc, List.singleton_append, ← hnext.pending, htaken.order]
  dispatches := by
    rw [hnext.dispatches, hnext.dispatched, List.length_append, List.length_singleton,
      htaken.dispatches]

theorem taken_step {source next : BulkState redaction} {event : BulkEvent redaction}
    (htaken : Taken run source.ledger) (hstep : run.step source event = some next) :
    Taken run next.ledger := by
  rcases (stepEffect_of_step hstep).queue with hsame | ⟨index, hnext⟩
  · exact htaken.same hsame
  · exact htaken.next hnext

theorem reachable_taken {state : BulkState redaction} (hreach : run.system.Reachable state) :
    Taken run state.ledger := by
  induction hreach with
  | start initial =>
      obtain ⟨probe, rfl⟩ := initial
      have hinit : Taken run (run.initialLedger probe) := ⟨rfl, rfl⟩
      exact hinit.same (silent_emit run _ .start).queue
  | next prior event _ htaken ih => exact taken_step ih htaken

/-! ## What the summary accounts for -/

/-- The indices of the plan that have a receipt. -/
def BulkRun.known (run : BulkRun redaction) (ledger : BulkLedger redaction) : List Nat :=
  (List.range run.total).filter fun index => (ledger.completed index).isSome

/-- The counters of a summary that fit the plan and the run. -/
structure FitsRun (run : BulkRun redaction) (ledger : BulkLedger redaction)
    (summary : BulkSummary) : Prop where
  total : summary.total = run.plan.items.length
  /-- The settled items are those with a known receipt. -/
  settled : summary.settled = (run.known ledger).length
  outstanding : summary.settled + summary.outstanding = summary.total
  /-- The dispatches are the items that were taken from the pending ones. -/
  dispatches : summary.dispatches = ledger.dispatched.length
  taken : ledger.dispatched ++ ledger.pending = run.pendingAtStart

/-- Every settled item is counted once. -/
def BulkSummary.AddsUp (summary : BulkSummary) : Prop :=
  ((summary.succeeded + summary.failed + summary.skipped : Nat) : Int) = summary.settled

/-- The terminal summary is made without an error, and its counters fit the run. -/
theorem exists_terminalSummary (htaken : Taken run ledger) (readings : SummaryReadings) :
    ∃ summary, run.terminalSummary ledger readings = .ok summary ∧ FitsRun run ledger summary ∧
      (summary.AddsUp ↔ ∀ index receipt, index < run.total →
        ledger.completed index = some receipt → isCounted receipt.outcome = true) := by
  have hknown : (completedReceipts run.total ledger.completed).length =
      (run.known ledger).length := by
    rw [BulkRun.known, ← index_completedReceipts, List.length_map]
  have hle : (completedReceipts run.total ledger.completed).length ≤ run.total := by
    calc (completedReceipts run.total ledger.completed).length
      _ = (run.known ledger).length := hknown
      _ ≤ (List.range run.total).length := List.length_filter_le _ _
      _ = run.total := List.length_range
  obtain ⟨result, hresult, htotal, hsucceeded, hfailed, hskipped, hsettled, houtstanding,
    hdispatches⟩ := exists_summary (completedReceipts run.total ledger.completed) hle
      ledger.dispatches ledger.stopReason ledger.itemBudgetError readings
  have hfits : FitsRun run ledger result := by
    constructor
    · exact htotal
    · rw [hsettled, hknown]
    · rw [hsettled, houtstanding, htotal]
      omega
    · rw [hdispatches, htaken.dispatches]
    · exact htaken.order
  refine ⟨result, hresult, hfits, ?_⟩
  rw [BulkSummary.AddsUp, hsucceeded, hfailed, hskipped, hsettled, Int.ofNat_inj,
    outcomeCount_add_eq_length_iff]
  constructor
  · intro hcounted index receipt hindex hreceipt
    exact hcounted ⟨index, receipt⟩ (mem_completedReceipts.mpr ⟨hindex, hreceipt⟩)
  · intro hcounted item hitem
    obtain ⟨hindex, hreceipt⟩ := mem_completedReceipts.mp hitem
    exact hcounted item.index item.receipt hindex hreceipt

/-- The receipt that the call for an item returned has an outcome that is counted. -/
def CountedReceipt (_ : BulkState redaction) (event : BulkEvent redaction) : Prop :=
  ∀ receipt ∈ event.returnedReceipt, isCounted receipt.outcome = true

/-- Every known receipt has an outcome that is counted. -/
def AllCounted (ledger : BulkLedger redaction) : Prop :=
  ∀ index receipt, ledger.completed index = some receipt → isCounted receipt.outcome = true

/-- A step whose returned receipt is counted keeps every receipt counted: the receipts that
the executor makes itself are those of failures. -/
theorem allCounted_step {source next : BulkState redaction} {event : BulkEvent redaction}
    (hcounted : AllCounted source.ledger) (hevent : CountedReceipt source event)
    (hstep : run.step source event = some next) : AllCounted next.ledger := by
  rcases (stepEffect_of_step hstep).completed with hsame | ⟨index, receipt, -, hrecorded, hupdate⟩
  · rw [AllCounted, hsame]
    exact hcounted
  · have hreceipt : isCounted receipt.outcome = true := by
      rcases hrecorded with hreturned | ⟨item, exhausted, -, rfl⟩
      · exact hevent receipt hreturned
      · rfl
    rw [AllCounted, hupdate]
    intro other value hvalue
    by_cases hother : other = index
    · rw [hother, Function.update_self] at hvalue
      cases hvalue
      exact hreceipt
    · rw [Function.update_of_ne hother] at hvalue
      exact hcounted other value hvalue

theorem reachable_allCounted
    (hresumed : ∀ item ∈ run.resumedReceipts, isCounted item.receipt.outcome = true)
    {state : BulkState redaction} (hreach : run.system.ReachableUnder CountedReceipt state) :
    AllCounted state.ledger := by
  induction hreach with
  | start initial =>
      obtain ⟨probe, rfl⟩ := initial
      rw [AllCounted, BulkRun.start, (silent_emit run (run.initialLedger probe) .start).completed]
      intro index receipt hreceipt
      exact hresumed _ (BulkRun.mem_of_resumed hreceipt)
  | next prior event hevent htaken ih => exact allCounted_step ih hevent htaken

/-- When the terminal summary is yielded, it was made without an error, whatever the clock shows
and the budget errors say, and its counters fit the plan and the run. They add up exactly when every known receipt is counted: so they do in every
run that resumes from counted receipts and is given no others. -/
theorem terminal_summary_accounts (run : BulkRun redaction) :
    (∀ state, run.system.Reachable state → state.phase = .yielding [] .summary →
      ∀ readings, ∃ result, run.terminalSummary state.ledger readings = .ok result ∧
        FitsRun run state.ledger result ∧ (result.AddsUp ↔ AllCounted state.ledger)) ∧
      ((∀ item ∈ run.resumedReceipts, isCounted item.receipt.outcome = true) →
        ∀ state, run.system.ReachableUnder CountedReceipt state →
          state.phase = .yielding [] .summary →
            ∀ readings, ∃ result, run.terminalSummary state.ledger readings = .ok result ∧
              FitsRun run state.ledger result ∧ result.AddsUp) := by
  have hsummary : ∀ state, run.system.Reachable state → ∀ readings,
      ∃ result, run.terminalSummary state.ledger readings = .ok result ∧
        FitsRun run state.ledger result ∧ (result.AddsUp ↔ AllCounted state.ledger) := by
    intro state hreach readings
    obtain ⟨result, hresult, hfits, hadds⟩ :=
      exists_terminalSummary (reachable_taken hreach) readings
    refine ⟨result, hresult, hfits, hadds.trans ?_⟩
    have hlt := (reachable_invariant hreach).account.completed_lt
    constructor
    · intro hcounted index receipt hreceipt
      exact hcounted index receipt (hlt index (by rw [hreceipt]; rfl)) hreceipt
    · intro hcounted index receipt _ hreceipt
      exact hcounted index receipt hreceipt
  constructor
  · intro state hreach _
    exact hsummary state hreach
  · intro hresumed state hreach _ readings
    obtain ⟨result, hresult, hfits, hadds⟩ := hsummary state hreach.reachable readings
    exact ⟨result, hresult, hfits, hadds.mpr (reachable_allCounted hresumed hreach)⟩

/-! ## A rejected item -/

/-- The receipt of a deletion that the platform refused. -/
def rejectedReceipt (target : CatalogId) : MutationReceipt plainRedaction :=
  { deletedReceipt target with outcome := .rejected }

/-- Both items are run, with these receipts, up to the terminal summary. -/
def summaryRun (first second : MutationReceipt plainRedaction) :
    List (BulkEvent plainRedaction) :=
  [.dispatch {}, .dispatch {}, .dispatch {}, .wait [0, 1],
    .record (.called (.returned first) false) {}, .next,
    .record (.called (.returned second) false) {}, .next, .finish {}]

/-- The terminal summary is being yielded. -/
def BulkState.atSummary (state : BulkState redaction) : Bool :=
  match state.phase with
  | .yielding [] .summary => true
  | _ => false

theorem BulkState.phase_of_atSummary {state : BulkState redaction}
    (hsummary : state.atSummary = true) : state.phase = .yielding [] .summary := by
  rw [BulkState.atSummary] at hsummary
  split at hsummary
  · assumption
  · cases hsummary

/-- The second item is rejected: it is settled and in no counter. -/
theorem rejected_item_not_counted :
    ∃ state, (twoItemRun .sync).system.Reachable state ∧ state.phase = .yielding [] .summary ∧
      ∀ readings, ∃ result,
        (twoItemRun .sync).terminalSummary state.ledger readings = .ok result ∧
          ¬ result.AddsUp := by
  obtain ⟨state, hreach, htest⟩ := (twoItemRun .sync).system.exists_reachable_of_run
    ((twoItemRun .sync).start {}) ⟨{}, rfl⟩
    (summaryRun (deletedReceipt (datasetId "first" (by decide)))
      (rejectedReceipt (datasetId "second" (by decide))))
    (fun state => state.atSummary && decide (∃ receipt ∈ state.ledger.completed 1,
      isCounted receipt.outcome = false)) (by decide +kernel)
  rw [Bool.and_eq_true, decide_eq_true_iff] at htest
  obtain ⟨hsummary, receipt, hreceipt, hrejected⟩ := htest
  refine ⟨state, hreach, state.phase_of_atSummary hsummary, fun readings => ?_⟩
  obtain ⟨result, hresult, -, hadds⟩ := exists_terminalSummary (reachable_taken hreach) readings
  refine ⟨result, hresult, ?_⟩
  intro hsum
  have hcounted := hadds.mp hsum 1 receipt (by decide) hreceipt
  rw [hrejected] at hcounted
  exact Bool.false_ne_true hcounted

/-- The summary of a run with a rejected item, and of one in which both items succeed. -/
theorem two_item_summaries :
    (∃ state, ((twoItemRun .sync).system.Reachable state ∧
        state.phase = .yielding [] .summary) ∧
      ∀ readings, ∃ result,
        (twoItemRun .sync).terminalSummary state.ledger readings = .ok result ∧
          FitsRun (twoItemRun .sync) state.ledger result ∧
          (result.AddsUp ↔ AllCounted state.ledger)) ∧
      ∃ state, ((∀ item ∈ (twoItemRun .sync).resumedReceipts,
          isCounted item.receipt.outcome = true) ∧
        (twoItemRun .sync).system.ReachableUnder CountedReceipt state ∧
          state.phase = .yielding [] .summary) ∧
        ∀ readings, ∃ result,
          (twoItemRun .sync).terminalSummary state.ledger readings = .ok result ∧
            FitsRun (twoItemRun .sync) state.ledger result ∧ result.AddsUp := by
  have haccounts := terminal_summary_accounts (twoItemRun .sync)
  constructor
  · obtain ⟨state, hreach, htest⟩ := (twoItemRun .sync).system.exists_reachable_of_run
      ((twoItemRun .sync).start {}) ⟨{}, rfl⟩
      (summaryRun (deletedReceipt (datasetId "first" (by decide)))
        (rejectedReceipt (datasetId "second" (by decide)))) BulkState.atSummary
      (by decide +kernel)
    have hphase := state.phase_of_atSummary htest
    exact ⟨state, ⟨hreach, hphase⟩, haccounts.1 state hreach hphase⟩
  · obtain ⟨state, hreach, htest⟩ := (twoItemRun .sync).system.exists_reachableUnder_of_run
      CountedReceipt ((twoItemRun .sync).start {}) ⟨{}, rfl⟩
      (summaryRun (deletedReceipt (datasetId "first" (by decide)))
        (deletedReceipt (datasetId "second" (by decide))))
      (by simp [summaryRun, CountedReceipt, BulkEvent.returnedReceipt, deletedReceipt, isCounted])
      BulkState.atSummary (by decide +kernel)
    have hphase := state.phase_of_atSummary htest
    have hresumed : ∀ item ∈ (twoItemRun .sync).resumedReceipts,
        isCounted item.receipt.outcome = true := by
      intro item hitem
      cases hitem
    exact ⟨state, ⟨hresumed, hreach, hphase⟩, haccounts.2 hresumed state hreach hphase⟩

end DataSluice.Runtime
