/-
# Guarded runs of a partial step function

A component under an adversarial scheduler is given here by its initial states
and a partial, executable step: an event that is not enabled has no successor.
What a run may do is then decided by the list of events alone, so interleavings,
crashes and clock readings are all data.

Two notions of reachability are needed. `Reachable` admits every enabled event.
`ReachableUnder guard` admits only steps whose event meets a condition in the
state it is taken from, which is how a result that holds on some runs only is
stated: in every run all of whose steps meet the guard, every state reached has
the property.
-/

import Mathlib.Logic.Relation

namespace DataSluice.Lib

universe us ue

/-- A labelled transition system whose step is a partial function. -/
structure System (State : Type us) (Event : Type ue) where
  /-- The states a run may start from. -/
  init : State → Prop
  /-- The successor of a state under one event, if the event is enabled. -/
  step : State → Event → Option State

namespace System

variable {State : Type us} {Event : Type ue} (S : System State Event)

/-- Execute a list of events, with no result when one of them is not enabled. -/
def run : State → List Event → Option State
  | state, [] => some state
  | state, event :: events => (S.step state event).bind fun next => run next events

/-- The states of runs all of whose steps meet `guard` in the state they are
taken from. -/
inductive ReachableUnder (guard : State → Event → Prop) : State → Prop
  | /-- A run may start here. -/
    start {state : State} (initial : S.init state) : ReachableUnder guard state
  | /-- One more enabled step that meets the guard. -/
    next {source target : State} (prior : ReachableUnder guard source) (event : Event)
      (allowed : guard source event) (taken : S.step source event = some target) :
      ReachableUnder guard target

/-- The states of arbitrary runs. -/
def Reachable : State → Prop := S.ReachableUnder fun _ _ => True

variable {S}

/-- A property that holds initially and that every guarded step keeps holds in
every state a guarded run reaches. -/
theorem ReachableUnder.invariant {guard : State → Event → Prop} {property : State → Prop}
    (hinit : ∀ state, S.init state → property state)
    (hstep : ∀ source event target, property source → guard source event →
      S.step source event = some target → property target)
    {state : State} (hreach : S.ReachableUnder guard state) : property state := by
  induction hreach with
  | start initial => exact hinit _ initial
  | next prior event allowed taken ih => exact hstep _ _ _ ih allowed taken

/-- A guarded run is a run. -/
theorem ReachableUnder.reachable {guard : State → Event → Prop} {state : State}
    (hreach : S.ReachableUnder guard state) : S.Reachable state := by
  induction hreach with
  | start initial => exact .start initial
  | next prior event allowed taken ih => exact .next ih event trivial taken

/-- An enabled event that meets the guard leads to its own successor, which need
not be written down. -/
theorem ReachableUnder.take {guard : State → Event → Prop} {source : State}
    (prior : S.ReachableUnder guard source) (event : Event) (allowed : guard source event)
    (enabled : (S.step source event).isSome = true) :
    S.ReachableUnder guard ((S.step source event).get enabled) :=
  prior.next event allowed (Option.some_get enabled).symm

/-- Executing enabled events that meet the guard wherever they are taken keeps a
state reachable. -/
theorem ReachableUnder.of_run {guard : State → Event → Prop} {source target : State}
    (events : List Event) (hguard : ∀ event ∈ events, ∀ state, guard state event)
    (hsource : S.ReachableUnder guard source) (hrun : S.run source events = some target) :
    S.ReachableUnder guard target := by
  induction events generalizing source with
  | nil =>
      cases hrun
      exact hsource
  | cons event events ih =>
      simp only [run, Option.bind_eq_some_iff] at hrun
      obtain ⟨middle, htaken, hrest⟩ := hrun
      have hmiddle := hsource.next event (hguard event List.mem_cons_self source) htaken
      exact ih (fun other hother => hguard other (List.mem_cons_of_mem _ hother)) hmiddle hrest

/-- Executing enabled events keeps a state reachable. -/
theorem Reachable.of_run {source target : State} (events : List Event)
    (hsource : S.Reachable source) (hrun : S.run source events = some target) :
    S.Reachable target :=
  ReachableUnder.of_run events (fun _ _ _ => trivial) hsource hrun

variable (S) in
/-- A run that ends in a state passing a Boolean test exhibits a reachable state
with the tested property. -/
theorem exists_reachableUnder_of_run (guard : State → Event → Prop) (source : State)
    (hsource : S.init source) (events : List Event)
    (hguard : ∀ event ∈ events, ∀ state, guard state event) (test : State → Bool)
    (htest : (S.run source events).any test = true) :
    ∃ state, S.ReachableUnder guard state ∧ test state = true := by
  cases hrun : S.run source events with
  | none => simp [hrun] at htest
  | some state =>
      rw [hrun] at htest
      exact ⟨state, ReachableUnder.of_run events hguard (.start hsource) hrun, by
        simpa using htest⟩

variable (S) in
/-- The same for an arbitrary run. -/
theorem exists_reachable_of_run (source : State) (hsource : S.init source)
    (events : List Event) (test : State → Bool)
    (htest : (S.run source events).any test = true) :
    ∃ state, S.Reachable state ∧ test state = true :=
  S.exists_reachableUnder_of_run _ source hsource events (fun _ _ _ => trivial) test htest

end System

end DataSluice.Lib
