/-
# What a bulk stream keeps

An index of the plan is pending, in flight or completed, and never two of these.
From that account everything about one run follows: what is dispatched is new, what
is yielded is in order, and each checkpoint extends the one before. `Account` is
the part that does not mention where the generator stands; `BulkPhase.Ok` says what
each phase adds to it.

The last checkpoint covers every dispatched index in each phase in which the stream
can end, with two exceptions: a `CancelledError` that reaches the `GeneratorExit`
handler while it drains, and a second one that reaches `_cancel_stream` while it
waits for its cleanup task. Both end the stream before the last checkpoint.
-/

import Mathlib.Data.List.Chain
import DataSluice.Runtime.Bulk

namespace DataSluice.Runtime

open DataSluice.Lib DataSluice.Domain

variable {redaction : Redaction}

/-! ## The promises of a run -/

/-- The promises that hold in every state of a run. -/
structure BulkSafe (run : BulkRun redaction) (ledger : BulkLedger redaction) : Prop where
  /-- No index is dispatched twice. -/
  dispatched_once : ledger.dispatched.Nodup
  /-- No index that the resumed checkpoint has a receipt for is dispatched. -/
  dispatched_new : ∀ index ∈ ledger.dispatched,
    index ∉ run.resumedReceipts.map BulkItemReceipt.index
  /-- The tasks in flight stay within the three limits. -/
  bounded : ledger.inFlight.length ≤
    min (min run.policy.maxParallelism run.platformMaxParallelism) 32
  /-- The yielded receipts are those of the first indices, in order. -/
  emitted_in_order :
    ledger.emitted.map BulkItemReceipt.index = List.range ledger.emitted.length
  /-- Each checkpoint has the receipts of the one before, the first those of the
  checkpoint the run resumed from. -/
  handed_grow : List.IsChain (· ⊆ ·)
    (run.resumedReceipts :: ledger.handed.map BulkCheckpoint.itemReceipts)

/-- The indices that the last checkpoint handed to the sink has a receipt for. -/
def BulkLedger.lastIndices (ledger : BulkLedger redaction) : List Nat :=
  match ledger.handed.getLast? with
  | none => []
  | some checkpoint => checkpoint.itemReceipts.map BulkItemReceipt.index

/-- The last checkpoint handed to the sink has a receipt for every dispatched index. -/
def LastCovers (ledger : BulkLedger redaction) : Prop :=
  ∀ index ∈ ledger.dispatched, index ∈ ledger.lastIndices

instance (ledger : BulkLedger redaction) : Decidable (LastCovers ledger) :=
  inferInstanceAs (Decidable (∀ index ∈ ledger.dispatched, index ∈ ledger.lastIndices))

/-- The stream ended normally, by cancellation or by `GeneratorExit`. -/
def BulkPhase.settledEnd : BulkPhase redaction → Bool
  | .ended .normal | .ended .cancelled | .ended .generatorExit => true
  | _ => false

/-- No `CancelledError` reaches the `GeneratorExit` handler while it drains, and at most
one more reaches `_cancel_stream` while its cleanup task drains. -/
def Undisturbed (state : BulkState redaction) : BulkEvent redaction → Prop
  | .cancel => state.phase ≠ .draining ∧ state.phase ≠ .cleanup true
  | _ => True

/-! ## The account of the indices -/

/-- The receipts of the checkpoint that was handed over last, or resumed from. -/
def BulkRun.lastReceipts (run : BulkRun redaction) (ledger : BulkLedger redaction) :
    List (BulkItemReceipt redaction) :=
  match ledger.handed.getLast? with
  | none => run.resumedReceipts
  | some checkpoint => checkpoint.itemReceipts

/-- Where every index of the plan stands, and what was done about it. -/
structure Account (run : BulkRun redaction) (ledger : BulkLedger redaction) : Prop where
  completed_lt : ∀ index, (ledger.completed index).isSome = true → index < run.total
  pending_nodup : ledger.pending.Nodup
  pending_lt : ∀ index ∈ ledger.pending, index < run.total
  pending_open : ∀ index ∈ ledger.pending, ledger.completed index = none
  inFlight_nodup : ledger.inFlight.Nodup
  inFlight_dispatched : ∀ index ∈ ledger.inFlight, index ∈ ledger.dispatched
  inFlight_open : ∀ index ∈ ledger.inFlight, ledger.completed index = none
  inFlight_lt : ∀ index ∈ ledger.inFlight, index < run.total
  dispatched_once : ledger.dispatched.Nodup
  dispatched_not_pending : ∀ index ∈ ledger.dispatched, index ∉ ledger.pending
  dispatched_new : ∀ index ∈ ledger.dispatched, run.resumed index = none
  resumed_kept : ∀ index receipt, run.resumed index = some receipt →
    ledger.completed index = some receipt
  bounded : ledger.inFlight.length ≤ run.parallelism
  emitted_in_order :
    ledger.emitted.map BulkItemReceipt.index = List.range ledger.emitted.length
  handed_grow : List.IsChain (· ⊆ ·)
    (run.resumedReceipts :: ledger.handed.map BulkCheckpoint.itemReceipts)
  last_kept : ∀ item ∈ run.lastReceipts ledger,
    ledger.completed item.index = some item.receipt

/-- The last checkpoint has every completed receipt, if checkpoints are required. -/
def Covered (run : BulkRun redaction) (ledger : BulkLedger redaction) : Prop :=
  run.policy.checkpointRequired = true → ∀ index receipt,
    ledger.completed index = some receipt → ⟨index, receipt⟩ ∈ run.lastReceipts ledger

/-- Every dispatched index is in flight or completed. -/
def Settling (ledger : BulkLedger redaction) : Prop :=
  ∀ index ∈ ledger.dispatched,
    index ∈ ledger.inFlight ∨ (ledger.completed index).isSome = true

/-- With the receipts of `queue`, everything below the emission index was yielded. -/
def EmittedWith (ledger : BulkLedger redaction) (queue : List (BulkItemReceipt redaction)) : Prop :=
  (ledger.emitted ++ queue).map BulkItemReceipt.index = List.range ledger.nextEmit

/-- Finished tasks that are still to be recorded. -/
structure DoneOk (ledger : BulkLedger redaction) (done : List Nat) : Prop where
  nodup : done.Nodup
  inFlight : done ⊆ ledger.inFlight

/-- What the place a `yield` returns to relies on. -/
def Resume.Ok (ledger : BulkLedger redaction) : Resume → Prop
  | .loop done => DoneOk ledger done
  | .start | .finish | .summary => ledger.inFlight = []

/-- What each phase adds to the account. A stream that ended in a `calm` run left
nothing in flight and nothing out of the last checkpoint. -/
def BulkPhase.Ok (run : BulkRun redaction) (calm : Prop) (ledger : BulkLedger redaction) :
    BulkPhase redaction → Prop
  | .yielding queue next => Settling ledger ∧ Covered run ledger ∧ EmittedWith ledger queue ∧
      next.Ok ledger
  | .dispatching | .waiting => Settling ledger ∧ Covered run ledger ∧ EmittedWith ledger []
  | .collecting done | .storing done =>
      Settling ledger ∧ Covered run ledger ∧ EmittedWith ledger [] ∧ DoneOk ledger done
  | .finishing | .storingLast =>
      Settling ledger ∧ Covered run ledger ∧ EmittedWith ledger [] ∧ ledger.inFlight = []
  | .draining | .cleanup _ => Settling ledger ∧ ledger.inFlight ≠ []
  | .storingFinal _ _ => Settling ledger ∧ Covered run ledger ∧ ledger.inFlight = []
  | .ended ending => calm → ending ≠ .raised →
      Settling ledger ∧ Covered run ledger ∧ ledger.inFlight = []

/-- The invariant of a run. -/
structure BulkInvariant (run : BulkRun redaction) (calm : Prop) (state : BulkState redaction) :
    Prop where
  account : Account run state.ledger
  phase : state.phase.Ok run calm state.ledger

/-! ## Parts of the ledger that the account does not mention -/

variable {run : BulkRun redaction} {calm : Prop} {ledger : BulkLedger redaction}

/-- The stop state is read from the probe or kept. -/
theorem BulkRun.refreshStopState_eq (run : BulkRun redaction) (ledger : BulkLedger redaction)
    (probe : Probe) (checkBudget : Bool) :
    ∃ reason, run.refreshStopState ledger probe checkBudget =
      { ledger with stopReason := reason } := by
  rw [refreshStopState]
  split
  · exact ⟨_, rfl⟩
  · exact ⟨ledger.stopReason, rfl⟩

/-- The fields that the account is about. -/
structure SameAccount (ledger other : BulkLedger redaction) : Prop where
  completed : other.completed = ledger.completed
  pending : other.pending = ledger.pending
  inFlight : other.inFlight = ledger.inFlight
  dispatched : other.dispatched = ledger.dispatched
  emitted : other.emitted = ledger.emitted
  handed : other.handed = ledger.handed

theorem Account.congr {other : BulkLedger redaction} (haccount : Account run ledger)
    (hsame : SameAccount ledger other) : Account run other := by
  obtain ⟨⟨completed, pending, _, _, _, _, _, _⟩, inFlight, dispatched, emitted, handed⟩ := ledger
  obtain ⟨⟨completed, pending, _, _, _, _, _, _⟩, inFlight, dispatched, emitted, handed⟩ := other
  obtain ⟨rfl, rfl, rfl, rfl, rfl, rfl⟩ := hsame
  exact { haccount with }

theorem Covered.congr {other : BulkLedger redaction} (hcovered : Covered run ledger)
    (hsame : SameAccount ledger other) : Covered run other := by
  intro hrequired index receipt hreceipt
  rw [hsame.completed] at hreceipt
  rw [BulkRun.lastReceipts, hsame.handed]
  exact hcovered hrequired index receipt hreceipt

theorem Settling.congr {other : BulkLedger redaction} (hsettling : Settling ledger)
    (hsame : SameAccount ledger other) : Settling other := by
  intro index hindex
  rw [hsame.dispatched] at hindex
  rw [hsame.inFlight, hsame.completed]
  exact hsettling index hindex

/-! ## Yielding -/

/-- What the head of the loop relies on. -/
structure LoopReady (run : BulkRun redaction) (ledger : BulkLedger redaction) : Prop where
  account : Account run ledger
  settling : Settling ledger
  covered : Covered run ledger

theorem enterLoop_ok (hready : LoopReady run ledger) (hemitted : EmittedWith ledger []) :
    BulkInvariant run calm (BulkRun.enterLoop ledger) := by
  rw [BulkRun.enterLoop]
  split
  · next hidle =>
      exact ⟨hready.account, hready.settling, hready.covered, hemitted, hidle.2⟩
  · exact ⟨hready.account, hready.settling, hready.covered, hemitted⟩

theorem collect_ok (hready : LoopReady run ledger) (hemitted : EmittedWith ledger [])
    {done : List Nat} (hdone : DoneOk ledger done) :
    BulkInvariant run calm (BulkRun.collect ledger done) := by
  rw [BulkRun.collect]
  split
  · exact enterLoop_ok hready hemitted
  · exact ⟨hready.account, hready.settling, hready.covered, hemitted, hdone⟩

theorem resume_ok (hready : LoopReady run ledger) (hemitted : EmittedWith ledger [])
    {next : Resume} (hnext : next.Ok ledger) :
    BulkInvariant run calm (BulkRun.resume ledger next) := by
  cases next with
  | start => exact enterLoop_ok hready hemitted
  | loop done => exact collect_ok hready hemitted hnext
  | finish => exact ⟨hready.account, hready.settling, hready.covered, hemitted, hnext⟩
  | summary => exact ⟨hready.account, fun _ _ => ⟨hready.settling, hready.covered, hnext⟩⟩

/-- The first values of a list of consecutive indices are consecutive themselves. -/
theorem eq_range_of_append_eq_range {first second : List Nat} {count : Nat}
    (happend : first ++ second = List.range count) : first = List.range first.length := by
  have hlength : first.length + second.length = count := by
    rw [← List.length_append, happend, List.length_range]
  calc first
    _ = (first ++ second).take first.length := List.take_left.symm
    _ = List.range (min first.length count) := by rw [happend, List.take_range]
    _ = List.range first.length := by rw [Nat.min_eq_left (by omega)]

/-- Yielding one more receipt keeps the account. -/
theorem Account.emit (haccount : Account run ledger) {item : BulkItemReceipt redaction}
    {queue : List (BulkItemReceipt redaction)} (hemitted : EmittedWith ledger (item :: queue)) :
    Account run { ledger with emitted := ledger.emitted ++ [item] } := by
  have horder : (ledger.emitted ++ [item]).map BulkItemReceipt.index =
      List.range (ledger.emitted ++ [item]).length := by
    have happend : (ledger.emitted ++ [item]).map BulkItemReceipt.index ++
        queue.map BulkItemReceipt.index = List.range ledger.nextEmit := by
      rw [← hemitted]
      simp
    have hrange := eq_range_of_append_eq_range happend
    rwa [List.length_map] at hrange
  exact { haccount with emitted_in_order := horder }

theorem yieldNext_ok (hready : LoopReady run ledger) {queue : List (BulkItemReceipt redaction)}
    (hemitted : EmittedWith ledger queue) {next : Resume} (hnext : next.Ok ledger) :
    BulkInvariant run calm (BulkRun.yieldNext ledger queue next) := by
  cases queue with
  | nil => exact resume_ok hready hemitted hnext
  | cons item queue =>
      refine ⟨hready.account.emit hemitted, hready.settling, hready.covered, ?_, ?_⟩
      · change (ledger.emitted ++ [item] ++ queue).map _ = List.range ledger.nextEmit
        rw [← hemitted, List.append_assoc]
        rfl
      · cases next with
        | start | finish | summary => exact hnext
        | loop done => exact ⟨hnext.nodup, hnext.inFlight⟩

/-- The ordered receipts are those of consecutive indices. -/
theorem index_orderedFrom (completed : Nat → Option (MutationReceipt redaction))
    (fuel index : Nat) :
    (orderedFrom completed fuel index).map BulkItemReceipt.index =
      List.range' index (orderedFrom completed fuel index).length := by
  induction fuel generalizing index with
  | zero => rfl
  | succ fuel ih =>
      rw [orderedFrom]
      split
      · rfl
      · rw [List.map_cons, ih, List.length_cons, List.range'_succ]

theorem emit_ok (hready : LoopReady run ledger) (hemitted : EmittedWith ledger [])
    {next : Resume} (hnext : next.Ok ledger) : BulkInvariant run calm (run.emit ledger next) := by
  have hsame : SameAccount ledger
      { ledger with nextEmit := ledger.nextEmit + (run.orderedReceipts ledger).length } :=
    ⟨rfl, rfl, rfl, rfl, rfl, rfl⟩
  refine yieldNext_ok ⟨hready.account.congr hsame, hready.settling.congr hsame,
    hready.covered.congr hsame⟩ ?_ ?_
  · rw [EmittedWith, List.append_nil] at hemitted
    calc (ledger.emitted ++ run.orderedReceipts ledger).map BulkItemReceipt.index
      _ = List.range ledger.nextEmit ++
            List.range' ledger.nextEmit (run.orderedReceipts ledger).length := by
        rw [List.map_append, hemitted, BulkRun.orderedReceipts, index_orderedFrom]
      _ = List.range (ledger.nextEmit + (run.orderedReceipts ledger).length) := by
        rw [List.range_eq_range', List.range_eq_range']
        simpa using List.range'_append_1 (s := 0) (m := ledger.nextEmit)
  · cases next with
    | start | finish | summary => exact hnext
    | loop done => exact ⟨hnext.nodup, hnext.inFlight⟩

/-! ## Dispatching -/

theorem leave_ok (hready : LoopReady run ledger) (hemitted : EmittedWith ledger []) :
    BulkInvariant run calm (BulkRun.dispatchAvailable.leave ledger) := by
  rw [BulkRun.dispatchAvailable.leave]
  split
  · next hidle => exact ⟨hready.account, hready.settling, hready.covered, hemitted, hidle⟩
  · exact ⟨hready.account, hready.settling, hready.covered, hemitted⟩

/-- The ledger after the first pending index was dispatched. -/
def dispatchedLedger (ledger : BulkLedger redaction) (index : Nat) (pending : List Nat) :
    BulkLedger redaction :=
  { ledger with
    pending := pending
    inFlight := ledger.inFlight ++ [index]
    dispatches := ledger.dispatches + 1
    dispatched := ledger.dispatched ++ [index] }

/-- A pending index moves into flight. -/
theorem Account.dispatch (haccount : Account run ledger) {index : Nat} {pending : List Nat}
    (hpending : ledger.pending = index :: pending)
    (hroom : ledger.inFlight.length < run.parallelism) :
    Account run (dispatchedLedger ledger index pending) := by
  have hmem : index ∈ ledger.pending := by
    rw [hpending]
    exact List.mem_cons_self
  have hsub : ∀ other ∈ pending, other ∈ ledger.pending := by
    intro other hother
    rw [hpending]
    exact List.mem_cons_of_mem _ hother
  have hnodup := haccount.pending_nodup
  rw [hpending, List.nodup_cons] at hnodup
  have hopen := haccount.pending_open index hmem
  have hfresh : index ∉ ledger.dispatched := fun hdispatched =>
    haccount.dispatched_not_pending index hdispatched hmem
  have hidle : index ∉ ledger.inFlight := fun hflight =>
    hfresh (haccount.inFlight_dispatched index hflight)
  refine { haccount with
    pending_nodup := hnodup.2
    pending_lt := fun other hother => haccount.pending_lt other (hsub other hother)
    pending_open := fun other hother => haccount.pending_open other (hsub other hother)
    inFlight_nodup := List.nodup_append_comm.mp (List.nodup_cons.mpr
      ⟨hidle, haccount.inFlight_nodup⟩)
    inFlight_dispatched := ?_
    inFlight_open := ?_
    inFlight_lt := ?_
    dispatched_once := List.nodup_append_comm.mp (List.nodup_cons.mpr
      ⟨hfresh, haccount.dispatched_once⟩)
    dispatched_not_pending := ?_
    dispatched_new := ?_
    bounded := ?_ }
  · intro other hother
    rcases List.mem_append.mp hother with hother | hother
    · exact List.mem_append_left _ (haccount.inFlight_dispatched other hother)
    · exact List.mem_append_right _ hother
  · intro other hother
    rcases List.mem_append.mp hother with hother | hother
    · exact haccount.inFlight_open other hother
    · rw [List.mem_singleton.mp hother]
      exact hopen
  · intro other hother
    rcases List.mem_append.mp hother with hother | hother
    · exact haccount.inFlight_lt other hother
    · rw [List.mem_singleton.mp hother]
      exact haccount.pending_lt index hmem
  · intro other hother hrest
    rcases List.mem_append.mp hother with hother | hother
    · exact haccount.dispatched_not_pending other hother (hsub other hrest)
    · rw [List.mem_singleton.mp hother] at hrest
      exact hnodup.1 hrest
  · intro other hother
    rcases List.mem_append.mp hother with hother | hother
    · exact haccount.dispatched_new other hother
    · rw [List.mem_singleton.mp hother]
      cases hresumed : run.resumed index with
      | none => rfl
      | some receipt =>
          rw [haccount.resumed_kept index receipt hresumed] at hopen
          cases hopen
  · rw [dispatchedLedger, List.length_append]
    exact hroom

theorem Settling.dispatch (hsettling : Settling ledger) (index : Nat) (pending : List Nat) :
    Settling (dispatchedLedger ledger index pending) := by
  intro other hother
  rcases List.mem_append.mp hother with hother | hother
  · rcases hsettling other hother with hflight | hcompleted
    · exact .inl (List.mem_append_left _ hflight)
    · exact .inr hcompleted
  · exact .inl (List.mem_append_right _ hother)

theorem dispatchAvailable_ok (hready : LoopReady run ledger) (hemitted : EmittedWith ledger [])
    (probe : Probe) : BulkInvariant run calm (run.dispatchAvailable ledger probe) := by
  rw [BulkRun.dispatchAvailable]
  split
  · exact leave_ok hready hemitted
  · next index pending hpending =>
      split
      · exact leave_ok hready hemitted
      · next hroom =>
          split
          · have hsame : ∀ reason, SameAccount ledger { ledger with stopReason := reason } :=
              fun _ => ⟨rfl, rfl, rfl, rfl, rfl, rfl⟩
            exact leave_ok ⟨hready.account.congr (hsame _), hready.settling.congr (hsame _),
              hready.covered.congr (hsame _)⟩ hemitted
          · rw [not_or, Nat.not_le] at hroom
            exact ⟨hready.account.dispatch hpending hroom.1,
              hready.settling.dispatch index pending, hready.covered, hemitted⟩

/-! ## Recording and handing over -/

theorem completed_complete_self (ledger : BulkLedger redaction) (index : Nat)
    (result : ItemResult redaction) :
    (BulkRun.complete ledger index result).completed index = some result.receipt :=
  Function.update_self ..

theorem completed_complete_of_ne {index other : Nat} (hne : other ≠ index)
    (ledger : BulkLedger redaction) (result : ItemResult redaction) :
    (BulkRun.complete ledger index result).completed other = ledger.completed other :=
  Function.update_of_ne hne ..

/-- The receipt of a task in flight is recorded. -/
theorem Account.complete (haccount : Account run ledger) {index : Nat}
    (hflight : index ∈ ledger.inFlight) (result : ItemResult redaction) :
    Account run (BulkRun.complete ledger index result) := by
  have hkept : ∀ other receipt, ledger.completed other = some receipt →
      (BulkRun.complete ledger index result).completed other = some receipt := by
    intro other receipt hreceipt
    have hne : other ≠ index := by
      rintro rfl
      rw [haccount.inFlight_open other hflight] at hreceipt
      cases hreceipt
    rw [completed_complete_of_ne hne]
    exact hreceipt
  have herase : ∀ other ∈ ledger.inFlight.erase index, other ≠ index ∧ other ∈ ledger.inFlight :=
    fun other hother => (haccount.inFlight_nodup.mem_erase_iff).mp hother
  refine { haccount with
    completed_lt := ?_
    pending_open := ?_
    inFlight_nodup := haccount.inFlight_nodup.erase index
    inFlight_dispatched := fun other hother =>
      haccount.inFlight_dispatched other (herase other hother).2
    inFlight_open := ?_
    inFlight_lt := fun other hother => haccount.inFlight_lt other (herase other hother).2
    resumed_kept := fun other receipt hresumed =>
      hkept other receipt (haccount.resumed_kept other receipt hresumed)
    bounded := ?_
    last_kept := fun item hitem => hkept item.index item.receipt (haccount.last_kept item hitem) }
  · intro other hother
    by_cases hne : other = index
    · rw [hne]
      exact haccount.inFlight_lt index hflight
    · rw [completed_complete_of_ne hne] at hother
      exact haccount.completed_lt other hother
  · intro other hother
    have hne : other ≠ index := by
      rintro rfl
      exact haccount.dispatched_not_pending other (haccount.inFlight_dispatched other hflight)
        hother
    rw [completed_complete_of_ne hne]
    exact haccount.pending_open other hother
  · intro other hother
    rw [completed_complete_of_ne (herase other hother).1]
    exact haccount.inFlight_open other (herase other hother).2
  · exact Nat.le_trans List.length_erase_le haccount.bounded

theorem Settling.complete (hsettling : Settling ledger) (index : Nat)
    (result : ItemResult redaction) : Settling (BulkRun.complete ledger index result) := by
  intro other hother
  by_cases hne : other = index
  · right
    rw [hne, completed_complete_self]
    rfl
  · rw [completed_complete_of_ne hne]
    rcases hsettling other hother with hflight | hcompleted
    · exact .inl ((List.mem_erase_of_ne hne).mpr hflight)
    · exact .inr hcompleted

/-- A chain of growing receipts that starts at `first` grows to its last element. -/
theorem isChain_append_singleton {α : Type} {relation : α → α → Prop} {first : α} {rest : List α}
    {last : α} (hchain : List.IsChain relation (first :: rest))
    (hlast : relation ((first :: rest).getLast (List.cons_ne_nil first rest)) last) :
    List.IsChain relation (first :: (rest ++ [last])) := by
  rw [← List.cons_append, List.isChain_append]
  refine ⟨hchain, List.isChain_singleton last, ?_⟩
  intro final hfinal next hnext
  rw [List.getLast?_eq_some_getLast (List.cons_ne_nil first rest)] at hfinal
  cases hfinal
  cases hnext
  exact hlast

/-- The last receipts are the end of the chain of handed checkpoints. -/
theorem BulkRun.lastReceipts_eq_getLast (run : BulkRun redaction)
    (ledger : BulkLedger redaction) :
    (run.resumedReceipts :: ledger.handed.map BulkCheckpoint.itemReceipts).getLast
      (List.cons_ne_nil _ _) = run.lastReceipts ledger := by
  rw [lastReceipts]
  rcases List.eq_nil_or_concat ledger.handed with hhanded | ⟨earlier, last, hhanded⟩
  · simp [hhanded]
  · simp [hhanded]

/-- The ledger after a checkpoint of what is completed was handed over. -/
theorem Account.persist (haccount : Account run ledger) (cancellationRequested : Bool) :
    Account run (run.persist ledger cancellationRequested) := by
  rw [BulkRun.persist]
  split
  · refine { haccount with handed_grow := ?_, last_kept := ?_ }
    · rw [List.map_append]
      refine isChain_append_singleton haccount.handed_grow ?_
      rw [BulkRun.lastReceipts_eq_getLast]
      intro item hitem
      have hkept := haccount.last_kept item hitem
      refine mem_completedReceipts.mpr ⟨haccount.completed_lt item.index ?_, hkept⟩
      rw [hkept]
      rfl
    · intro item hitem
      rw [BulkRun.lastReceipts, List.getLast?_concat] at hitem
      exact (mem_completedReceipts.mp hitem).2
  · exact haccount

theorem Account.covered_persist (haccount : Account run ledger) (cancellationRequested : Bool) :
    Covered run (run.persist ledger cancellationRequested) := by
  intro hrequired index receipt hreceipt
  rw [BulkRun.persist, if_pos hrequired] at hreceipt ⊢
  rw [BulkRun.lastReceipts, List.getLast?_concat]
  refine mem_completedReceipts.mpr ⟨haccount.completed_lt index ?_, hreceipt⟩
  rw [show ledger.completed index = some receipt from hreceipt]
  rfl

/-- Handing a checkpoint over changes nothing else. -/
theorem BulkRun.persist_eq (run : BulkRun redaction) (ledger : BulkLedger redaction)
    (cancellationRequested : Bool) :
    ∃ handed, run.persist ledger cancellationRequested = { ledger with handed := handed } := by
  rw [persist]
  split
  · exact ⟨_, rfl⟩
  · exact ⟨ledger.handed, rfl⟩

/-- A task is taken out of the list of finished tasks when its receipt is recorded. -/
theorem DoneOk.complete {index : Nat} {done : List Nat} (hdone : DoneOk ledger (index :: done))
    (result : ItemResult redaction) : DoneOk (BulkRun.complete ledger index result) done := by
  have hnodup := List.nodup_cons.mp hdone.nodup
  refine ⟨hnodup.2, fun other hother => ?_⟩
  have hne : other ≠ index := by
    rintro rfl
    exact hnodup.1 hother
  exact (List.mem_erase_of_ne hne).mpr (hdone.inFlight (List.mem_cons_of_mem _ hother))

theorem afterRecord_ok (hready : LoopReady run ledger) (hemitted : EmittedWith ledger [])
    {done : List Nat} (hdone : DoneOk ledger done) :
    BulkInvariant run calm (run.afterRecord ledger done) := by
  have hsame : SameAccount ledger
      { ledger with
        lastPersistedCount := (completedReceipts run.total ledger.completed).length
        lastPersistedStopReason := ledger.stopReason } := ⟨rfl, rfl, rfl, rfl, rfl, rfl⟩
  exact emit_ok ⟨hready.account.congr hsame, hready.settling.congr hsame,
    hready.covered.congr hsame⟩ hemitted ⟨hdone.nodup, hdone.inFlight⟩

/-- A ledger that a checkpoint was handed over from is ready for the loop. -/
theorem Account.persist_ready (haccount : Account run ledger) (hsettling : Settling ledger)
    (cancellationRequested : Bool) :
    LoopReady run (run.persist ledger cancellationRequested) := by
  refine ⟨haccount.persist cancellationRequested, ?_,
    haccount.covered_persist cancellationRequested⟩
  obtain ⟨handed, hpersist⟩ := run.persist_eq ledger cancellationRequested
  rw [hpersist]
  exact hsettling

theorem recordResult_ok (haccount : Account run ledger) (hsettling : Settling ledger)
    (hemitted : EmittedWith ledger []) {index : Nat} {done : List Nat}
    (hdone : DoneOk ledger (index :: done)) (result : ItemResult redaction) (probe : Probe) :
    BulkInvariant run calm (run.recordResult ledger index done result probe) := by
  have hflight : index ∈ ledger.inFlight := hdone.inFlight List.mem_cons_self
  obtain ⟨reason, hrefresh⟩ := run.refreshStopState_eq (BulkRun.complete ledger index result)
    probe (!ledger.pending.isEmpty)
  have hsame : SameAccount (BulkRun.complete ledger index result)
      { BulkRun.complete ledger index result with stopReason := reason } :=
    ⟨rfl, rfl, rfl, rfl, rfl, rfl⟩
  have hready := ((haccount.complete hflight result).congr hsame).persist_ready
    ((hsettling.complete index result).congr hsame) (reason = some .cancelled)
  obtain ⟨handed, hpersist⟩ := run.persist_eq
    { BulkRun.complete ledger index result with stopReason := reason }
    (reason = some .cancelled)
  have hrest := hdone.complete result
  simp only [BulkRun.recordResult, hrefresh]
  rw [hpersist] at hready ⊢
  split
  · exact ⟨hready.account, hready.settling, hready.covered, hemitted, hrest.nodup,
      hrest.inFlight⟩
  · exact afterRecord_ok hready hemitted ⟨hrest.nodup, hrest.inFlight⟩

theorem finishProgress_ok (hready : LoopReady run ledger) (hemitted : EmittedWith ledger [])
    (hidle : ledger.inFlight = []) (probe : Probe) :
    BulkInvariant run calm (run.finishProgress ledger probe) := by
  obtain ⟨reason, hrefresh⟩ := run.refreshStopState_eq ledger probe false
  have hsame : SameAccount ledger { ledger with stopReason := reason } :=
    ⟨rfl, rfl, rfl, rfl, rfl, rfl⟩
  have hrefreshed : LoopReady run { ledger with stopReason := reason } :=
    ⟨hready.account.congr hsame, hready.settling.congr hsame, hready.covered.congr hsame⟩
  have hpersisted := hrefreshed.account.persist_ready hrefreshed.settling
    (reason = some .cancelled)
  obtain ⟨handed, hpersist⟩ := run.persist_eq { ledger with stopReason := reason }
    (reason = some .cancelled)
  simp only [BulkRun.finishProgress, hrefresh]
  split
  · rw [hpersist] at hpersisted ⊢
    split
    · exact ⟨hpersisted.account, hpersisted.settling, hpersisted.covered, hemitted, hidle⟩
    · exact emit_ok hpersisted hemitted hidle
  · exact emit_ok hrefreshed hemitted hidle

/-! ## Finalising -/

/-- The phases in which the finaliser drains. -/
def BulkPhase.drains : BulkPhase redaction → Bool
  | .draining | .cleanup _ => true
  | _ => false

theorem finalize_ok (haccount : Account run ledger) (hsettling : Settling ledger)
    {phase : BulkPhase redaction} (hphase : phase.drains = true) (ending : Ending)
    (interrupted : Bool) :
    BulkInvariant run calm (run.finalize ledger phase ending interrupted) := by
  rw [BulkRun.finalize]
  split
  · next hidle =>
      have hready := haccount.persist_ready hsettling true
      have hempty : (run.persist ledger true).inFlight = [] := by
        obtain ⟨handed, hpersist⟩ := run.persist_eq ledger true
        rw [hpersist]
        exact hidle
      split
      · exact ⟨hready.account, fun _ _ => ⟨hready.settling, hready.covered, hempty⟩⟩
      · exact ⟨hready.account, hready.settling, hready.covered, hempty⟩
  · next hbusy =>
      cases phase with
      | draining | cleanup _ => exact ⟨haccount, hsettling, hbusy⟩
      | yielding _ _ | dispatching | waiting | collecting _ | storing _ | finishing
      | storingLast | storingFinal _ _ | ended _ => cases hphase

/-- A task whose exception the stream does not handle leaves its place in flight. -/
theorem Account.drop (haccount : Account run ledger) (index : Nat) :
    Account run { ledger with inFlight := ledger.inFlight.erase index } := by
  have herase : ∀ other ∈ ledger.inFlight.erase index, other ∈ ledger.inFlight :=
    fun other hother => List.mem_of_mem_erase hother
  exact { haccount with
    inFlight_nodup := haccount.inFlight_nodup.erase index
    inFlight_dispatched := fun other hother =>
      haccount.inFlight_dispatched other (herase other hother)
    inFlight_open := fun other hother => haccount.inFlight_open other (herase other hother)
    inFlight_lt := fun other hother => haccount.inFlight_lt other (herase other hother)
    bounded := Nat.le_trans List.length_erase_le haccount.bounded }

theorem drainNext_ok (haccount : Account run ledger) (hsettling : Settling ledger)
    {phase : BulkPhase redaction} (hphase : phase.drains = true) {ending : Ending}
    {interrupted : Bool} {item : ItemRun redaction} {target : BulkState redaction}
    (hdrain : run.drainNext ledger item phase ending interrupted = some target) :
    BulkInvariant run calm target := by
  simp only [BulkRun.drainNext, Option.bind_eq_bind, Option.bind_eq_some_iff] at hdrain
  obtain ⟨index, hindex, catalogId, -, htaken⟩ := hdrain
  have hflight : index ∈ ledger.inFlight := List.mem_of_mem_head? hindex
  split at htaken
  · cases htaken
    exact ⟨haccount.drop index, fun _ hraised => absurd rfl hraised⟩
  · next result hresult =>
      cases htaken
      exact finalize_ok (haccount.complete hflight result) (hsettling.complete index result)
        hphase ending interrupted

/-- A cancellation keeps the invariant, and in a calm run it ends the stream only
where the last checkpoint has been handed over. -/
theorem cancelAt_ok {phase : BulkPhase redaction} (haccount : Account run ledger)
    (hphase : phase.Ok run calm ledger)
    (hcalm : calm → phase ≠ .draining ∧ phase ≠ .cleanup true) {target : BulkState redaction}
    (hcancel : run.cancelAt ledger phase = some target) : BulkInvariant run calm target := by
  cases phase with
  | waiting =>
      cases hcancel
      exact finalize_ok haccount hphase.1 rfl .cancelled false
  | storing done =>
      cases hcancel
      exact finalize_ok haccount hphase.1 rfl .cancelled false
  | storingLast =>
      cases hcancel
      exact ⟨haccount, fun _ _ => ⟨hphase.1, hphase.2.1, hphase.2.2.2⟩⟩
  | draining =>
      cases hcancel
      exact ⟨haccount, fun h _ => absurd rfl (hcalm h).1⟩
  | cleanup interrupted =>
      cases interrupted with
      | false =>
          cases hcancel
          exact ⟨haccount, hphase⟩
      | true =>
          cases hcancel
          exact ⟨haccount, fun h _ => absurd rfl (hcalm h).2⟩
  | storingFinal ending interrupted =>
      cases interrupted with
      | false =>
          cases hcancel
          exact ⟨haccount, hphase⟩
      | true =>
          cases hcancel
          exact ⟨haccount, fun _ _ => hphase⟩
  | yielding _ _ | dispatching | collecting _ | finishing | ended _ => cases hcancel

/-! ## Whole runs -/

/-- In a list without repeated indices, the receipt of an index is the one found. -/
theorem find?_index {items : List (BulkItemReceipt redaction)}
    (hnodup : (items.map BulkItemReceipt.index).Nodup) {item : BulkItemReceipt redaction}
    (hitem : item ∈ items) : (items.find? fun other => other.index = item.index) = some item := by
  induction items with
  | nil => cases hitem
  | cons first items ih =>
      rw [List.map_cons, List.nodup_cons] at hnodup
      rcases List.mem_cons.mp hitem with rfl | hrest
      · simp
      · have hne : first.index ≠ item.index := by
          intro heq
          exact hnodup.1 (heq ▸ List.mem_map_of_mem hrest)
        rw [List.find?_cons_of_neg (by simpa using hne)]
        exact ih hnodup.2 hrest

/-- The indices of the resumed checkpoint are those of a checkpoint of this plan. -/
theorem BulkRun.indicesOk_resumed (run : BulkRun redaction) :
    IndicesOk run.total (run.resumedReceipts.map BulkItemReceipt.index) := by
  have haccepted := ((validatePlan_eq_ok_iff run.plan run.checkpoint).mp run.accepted).2
  rw [resumedReceipts, total]
  split
  · exact ⟨.nil, .nil, fun index hindex => by cases hindex⟩
  · next checkpoint hcheckpoint =>
      rw [← (haccepted checkpoint hcheckpoint).1]
      exact checkpoint.indices_ok

theorem BulkRun.resumed_of_mem {item : BulkItemReceipt redaction}
    (hitem : item ∈ run.resumedReceipts) : run.resumed item.index = some item.receipt := by
  rw [resumed, find?_index run.indicesOk_resumed.nodup hitem]
  rfl

theorem BulkRun.mem_of_resumed {index : Nat} {receipt : MutationReceipt redaction}
    (hresumed : run.resumed index = some receipt) : ⟨index, receipt⟩ ∈ run.resumedReceipts := by
  obtain ⟨item, hfound, rfl⟩ := Option.map_eq_some_iff.mp hresumed
  have hindex : item.index = index := by simpa using List.find?_some hfound
  rw [← hindex]
  exact List.mem_of_find?_eq_some hfound

theorem BulkRun.resumed_lt {index : Nat} (hresumed : (run.resumed index).isSome = true) :
    index < run.total := by
  obtain ⟨receipt, hreceipt⟩ := Option.isSome_iff_exists.mp hresumed
  exact run.indicesOk_resumed.bounded index (List.mem_map_of_mem (mem_of_resumed hreceipt))

theorem start_ok (run : BulkRun redaction) (probe : Probe) :
    BulkInvariant run calm (run.start probe) := by
  have hopen : ∀ index ∈ (run.initialLedger probe).pending, run.resumed index = none := by
    intro index hindex
    simpa using (List.mem_filter.mp hindex).2
  have hready : LoopReady run (run.initialLedger probe) := by
    refine ⟨?_, ?_, ?_⟩
    · exact {
        completed_lt := fun index hcompleted => BulkRun.resumed_lt hcompleted
        pending_nodup := List.nodup_range.filter _
        pending_lt := fun index hindex => List.mem_range.mp (List.mem_filter.mp hindex).1
        pending_open := hopen
        inFlight_nodup := List.nodup_nil
        inFlight_dispatched := fun index hindex => by cases hindex
        inFlight_open := fun index hindex => by cases hindex
        inFlight_lt := fun index hindex => by cases hindex
        dispatched_once := List.nodup_nil
        dispatched_not_pending := fun index hindex => by cases hindex
        dispatched_new := fun index hindex => by cases hindex
        resumed_kept := fun index receipt hresumed => hresumed
        bounded := Nat.zero_le _
        emitted_in_order := rfl
        handed_grow := List.isChain_singleton _
        last_kept := fun item hitem => BulkRun.resumed_of_mem hitem }
    · intro index hindex
      cases hindex
    · intro hrequired index receipt hreceipt
      exact BulkRun.mem_of_resumed hreceipt
  exact emit_ok hready rfl rfl

/-- Every step keeps the invariant. -/
theorem step_ok {source target : BulkState redaction} {event : BulkEvent redaction}
    (hinv : BulkInvariant run calm source) (hcalm : calm → Undisturbed source event)
    (hstep : run.step source event = some target) : BulkInvariant run calm target := by
  obtain ⟨ledger, phase⟩ := source
  obtain ⟨haccount, hphase⟩ := hinv
  cases event with
  | next =>
      cases phase with
      | yielding queue next =>
          cases hstep
          exact yieldNext_ok ⟨haccount, hphase.1, hphase.2.1⟩ hphase.2.2.1 hphase.2.2.2
      | _ => cases hstep
  | close =>
      cases phase with
      | yielding queue next =>
          cases next with
          | loop done =>
              cases hstep
              exact finalize_ok haccount hphase.1 rfl .generatorExit false
          | start | finish | summary =>
              cases hstep
              exact ⟨haccount, fun _ _ => ⟨hphase.1, hphase.2.1, hphase.2.2.2⟩⟩
      | _ => cases hstep
  | dispatch probe =>
      cases phase with
      | dispatching =>
          cases hstep
          exact dispatchAvailable_ok ⟨haccount, hphase.1, hphase.2.1⟩ hphase.2.2 probe
      | _ => cases hstep
  | wait done =>
      cases phase with
      | waiting =>
          simp only [BulkRun.step] at hstep
          split at hstep
          · next hdone =>
              cases hstep
              exact collect_ok ⟨haccount, hphase.1, hphase.2.1⟩ hphase.2.2 ⟨hdone.2.1, hdone.2.2⟩
          · cases hstep
      | _ => cases hstep
  | record item probe =>
      cases phase with
      | collecting done =>
          cases done with
          | nil => cases hstep
          | cons index done =>
              simp only [BulkRun.step, Option.bind_eq_bind, Option.bind_eq_some_iff] at hstep
              obtain ⟨catalogId, -, htaken⟩ := hstep
              split at htaken
              · cases htaken
                exact ⟨haccount.drop index, fun _ hraised => absurd rfl hraised⟩
              · cases htaken
                exact recordResult_ok haccount hphase.1 hphase.2.2.1 hphase.2.2.2 _ probe
      | _ => cases hstep
  | stored =>
      cases phase with
      | storing done =>
          cases hstep
          exact afterRecord_ok ⟨haccount, hphase.1, hphase.2.1⟩ hphase.2.2.1 hphase.2.2.2
      | storingLast =>
          cases hstep
          exact emit_ok ⟨haccount, hphase.1, hphase.2.1⟩ hphase.2.2.1 hphase.2.2.2
      | storingFinal ending interrupted =>
          cases hstep
          exact ⟨haccount, fun _ _ => hphase⟩
      | _ => cases hstep
  | finish probe =>
      cases phase with
      | finishing =>
          cases hstep
          exact finishProgress_ok ⟨haccount, hphase.1, hphase.2.1⟩ hphase.2.2.1 hphase.2.2.2 probe
      | _ => cases hstep
  | drain item =>
      cases phase with
      | draining => exact drainNext_ok haccount hphase.1 rfl hstep
      | cleanup interrupted => exact drainNext_ok haccount hphase.1 rfl hstep
      | _ => cases hstep
  | cancel =>
      simp only [BulkRun.step] at hstep
      split at hstep
      · cases hstep
      · exact cancelAt_ok haccount hphase hcalm hstep

/-- Every state of an arbitrary run has the invariant without its end. -/
theorem reachable_invariant {state : BulkState redaction}
    (hreach : run.system.Reachable state) : BulkInvariant run False state := by
  refine System.ReachableUnder.invariant ?_ ?_ hreach
  · rintro _ ⟨probe, rfl⟩
    exact start_ok run probe
  · intro source event target hsource _ hstep
    exact step_ok hsource False.elim hstep

/-- Every state of an undisturbed run has the invariant with its end. -/
theorem undisturbed_invariant {state : BulkState redaction}
    (hreach : run.system.ReachableUnder Undisturbed state) : BulkInvariant run True state := by
  refine System.ReachableUnder.invariant ?_ ?_ hreach
  · rintro _ ⟨probe, rfl⟩
    exact start_ok run probe
  · intro source event target hsource hguard hstep
    exact step_ok hsource (fun _ => hguard) hstep

/-- The account gives the promises of a run. -/
theorem Account.safe (haccount : Account run ledger) : BulkSafe run ledger where
  dispatched_once := haccount.dispatched_once
  dispatched_new := by
    intro index hindex hresumed
    obtain ⟨item, hitem, rfl⟩ := List.mem_map.mp hresumed
    have hnew := haccount.dispatched_new item.index hindex
    rw [BulkRun.resumed_of_mem hitem] at hnew
    cases hnew
  bounded := haccount.bounded
  emitted_in_order := haccount.emitted_in_order
  handed_grow := haccount.handed_grow

/-- With nothing in flight and every completed receipt in the last checkpoint, every
dispatched index is. -/
theorem Account.lastCovers (haccount : Account run ledger) (hsettling : Settling ledger)
    (hcovered : Covered run ledger) (hidle : ledger.inFlight = [])
    (hrequired : run.policy.checkpointRequired = true) : LastCovers ledger := by
  intro index hindex
  have hcompleted : (ledger.completed index).isSome = true := by
    rcases hsettling index hindex with hflight | hcompleted
    · rw [hidle] at hflight
      cases hflight
    · exact hcompleted
  obtain ⟨receipt, hreceipt⟩ := Option.isSome_iff_exists.mp hcompleted
  have hlast := hcovered hrequired index receipt hreceipt
  rw [BulkRun.lastReceipts] at hlast
  rw [BulkLedger.lastIndices]
  split at hlast
  · have hnew := haccount.dispatched_new index hindex
    rw [BulkRun.resumed_of_mem hlast] at hnew
    cases hnew
  · exact List.mem_map_of_mem hlast

/-- An index that is still in flight is not in the last checkpoint. -/
theorem Account.not_lastCovers (haccount : Account run ledger) (hbusy : ledger.inFlight ≠ []) :
    ¬ LastCovers ledger := by
  obtain ⟨index, rest, hflight⟩ := List.exists_cons_of_ne_nil hbusy
  have hmem : index ∈ ledger.inFlight := by
    rw [hflight]
    exact List.mem_cons_self
  intro hcovers
  have hlast := hcovers index (haccount.inFlight_dispatched index hmem)
  have hkept := haccount.last_kept
  rw [BulkLedger.lastIndices] at hlast
  rw [BulkRun.lastReceipts] at hkept
  split at hlast
  · cases hlast
  · next checkpoint hcheckpoint =>
      rw [hcheckpoint] at hkept
      obtain ⟨item, hitem, rfl⟩ := List.mem_map.mp hlast
      have hcompleted := hkept item hitem
      rw [haccount.inFlight_open item.index hmem] at hcompleted
      cases hcompleted

/-- A disturbing cancellation ends the stream with an index in flight. -/
theorem disturbed_step {source target : BulkState redaction} {event : BulkEvent redaction}
    (hreach : run.system.Reachable source) (hdisturbed : ¬ Undisturbed source event)
    (hstep : run.step source event = some target) :
    target.phase = .ended .cancelled ∧ ¬ LastCovers target.ledger := by
  obtain ⟨haccount, hphase⟩ := reachable_invariant hreach
  obtain ⟨ledger, phase⟩ := source
  cases event with
  | cancel =>
      simp only [BulkRun.step] at hstep
      split at hstep
      · cases hstep
      · simp only [Undisturbed, not_and_or, not_not] at hdisturbed
        rcases hdisturbed with rfl | rfl
        · cases hstep
          exact ⟨rfl, haccount.not_lastCovers hphase.2⟩
        · cases hstep
          exact ⟨rfl, haccount.not_lastCovers hphase.2⟩
  | _ => exact absurd trivial hdisturbed

/-- Every run dispatches each open index at most once, within the limits, yields in
order and hands over growing checkpoints. The last checkpoint has a receipt for every
dispatched index when an undisturbed run ends; each disturbing cancellation ends a
run whose last checkpoint misses one. -/
theorem bulk_stream_safe (run : BulkRun redaction) :
    (∀ state, run.system.Reachable state → BulkSafe run state.ledger) ∧
      (run.policy.checkpointRequired = true →
        ∀ state, run.system.ReachableUnder Undisturbed state →
          state.phase.settledEnd = true → LastCovers state.ledger) ∧
      ∀ source event target, run.system.Reachable source → ¬ Undisturbed source event →
        run.step source event = some target →
          target.phase = .ended .cancelled ∧ ¬ LastCovers target.ledger := by
  refine ⟨?_, ?_, ?_⟩
  · intro state hreach
    exact (reachable_invariant hreach).account.safe
  · intro hrequired state hreach hended
    obtain ⟨haccount, hphase⟩ := undisturbed_invariant hreach
    obtain ⟨ledger, phase⟩ := state
    cases phase with
    | ended ending =>
        have hraised : ending ≠ .raised := by
          rintro rfl
          cases hended
        obtain ⟨hsettling, hcovered, hidle⟩ := hphase trivial hraised
        exact haccount.lastCovers hsettling hcovered hidle hrequired
    | _ => cases hended
  · intro source event target hreach hdisturbed hstep
    exact disturbed_step hreach hdisturbed hstep

/-! ## A stream that is closed and then cancelled -/

/-- Redaction functions for metadata without text. -/
def plainRedaction : Redaction := ⟨fun _ => false, fun text => text⟩

/-- A dataset identifier on one platform. -/
def datasetId (value : String) (nonempty : value ≠ "") : CatalogId where
  platform := ⟨"ckan", by decide +kernel⟩
  resourceKind := ⟨"dataset", by decide +kernel⟩
  value := value
  nonempty := nonempty

/-- A plan of two items. -/
def twoItemPlan : BulkPlan where
  operation := "delete"
  items := [datasetId "first" (by decide), datasetId "second" (by decide)]
  operation_ne_empty := by decide

/-- The receipt of a successful deletion. -/
def deletedReceipt (target : CatalogId) : MutationReceipt plainRedaction where
  operation := "delete"
  outcome := .succeeded
  target := target
  auditMetadata := .proxy []
  operation_ne_empty := by decide
  atomic_only_if := fun h => by cases h.1
  audit_frozen := ⟨.dict [], rfl⟩

/-- A stream over the two items, both of which may be in flight. -/
def twoItemRun (kind : ExecutorKind) : BulkRun plainRedaction where
  kind := kind
  policy := { maxParallelism := 4, bounded := by decide }
  platformMaxParallelism := 2
  plan := twoItemPlan
  checkpoint := none
  platform_bounded := by decide
  accepted := by decide +kernel

/-- Both items are dispatched, the first succeeds and its receipt is yielded. -/
def firstYielded : List (BulkEvent plainRedaction) :=
  [.dispatch {}, .dispatch {}, .dispatch {}, .wait [0],
    .record (.called (.returned (deletedReceipt (datasetId "first" (by decide)))) false) {},
    .stored]

/-- The stream is closed while the second item is in flight, and the task that closes it
is cancelled before that item settles. -/
theorem closed_stream_loses_item :
    ∃ state, (twoItemRun .async).system.Reachable state ∧
      (twoItemRun .async).policy.checkpointRequired = true ∧
      state.phase.settledEnd = true ∧ ¬ LastCovers state.ledger := by
  obtain ⟨state, hreach, htest⟩ := (twoItemRun .async).system.exists_reachable_of_run
    ((twoItemRun .async).start {}) ⟨{}, rfl⟩ (firstYielded ++ [.close, .cancel])
    (fun state => state.phase.settledEnd && !decide (LastCovers state.ledger)) (by decide +kernel)
  rw [Bool.and_eq_true, Bool.not_eq_true', decide_eq_false_iff_not] at htest
  exact ⟨state, hreach, rfl, htest⟩

/-- Closed without a cancellation, the same stream hands the second receipt over; with
one the last checkpoint misses it. -/
theorem closed_stream_covers :
    (∃ state, ((twoItemRun .async).system.ReachableUnder Undisturbed state ∧
        state.phase.settledEnd = true ∧ state.ledger.dispatched = [0, 1]) ∧
        BulkSafe (twoItemRun .async) state.ledger ∧ LastCovers state.ledger) ∧
      ∃ source target, ((twoItemRun .async).system.Reachable source ∧
        ¬ Undisturbed source .cancel ∧ (twoItemRun .async).step source .cancel = some target) ∧
        target.phase = .ended .cancelled ∧ ¬ LastCovers target.ledger := by
  have hsafe := bulk_stream_safe (twoItemRun .async)
  refine ⟨?_, ?_⟩
  · obtain ⟨state, hreach, htest⟩ := (twoItemRun .async).system.exists_reachableUnder_of_run
      Undisturbed ((twoItemRun .async).start {}) ⟨{}, rfl⟩
      (firstYielded ++ [.close, .drain (.called .raised false), .stored])
      (by simp [firstYielded, Undisturbed])
      (fun state => state.phase.settledEnd && decide (state.ledger.dispatched = [0, 1]))
      (by decide +kernel)
    rw [Bool.and_eq_true, decide_eq_true_iff] at htest
    exact ⟨state, ⟨hreach, htest⟩, hsafe.1 state hreach.reachable,
      hsafe.2.1 rfl state hreach htest.1⟩
  · obtain ⟨source, hreach, htest⟩ := (twoItemRun .async).system.exists_reachable_of_run
      ((twoItemRun .async).start {}) ⟨{}, rfl⟩ (firstYielded ++ [.close])
      (fun state => state.phase matches .draining) (by decide +kernel)
    obtain ⟨ledger, phase⟩ := source
    cases phase with
    | draining =>
        have hdisturbed : ¬ Undisturbed ⟨ledger, .draining⟩ (.cancel : BulkEvent plainRedaction) :=
          fun h => h.1 rfl
        exact ⟨⟨ledger, .draining⟩, ⟨ledger, .ended .cancelled⟩, ⟨hreach, hdisturbed, rfl⟩,
          hsafe.2.2 _ _ _ hreach hdisturbed rfl⟩
    | _ => cases htest

end DataSluice.Runtime
