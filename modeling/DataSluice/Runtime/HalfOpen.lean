/-
# Half-open trials across interleaved calls

The trial set of the registry has no owners, so every verdict or release of any
call discards the marker of whichever trial is in flight. The first half of this
module isolates what that costs: while no call settles over another call's
outstanding trial, an open circuit admits nobody else.

The second half is about the other end of a trial. Every exit of a guarded client
call settles what its admission marked. The refreshing provider does so on every
exit but two, and when neither is taken a circuit with no call in flight admits
again as soon as it has cooled down.
-/

import DataSluice.Runtime.Dispatch

namespace DataSluice.Runtime.Circuit

open DataSluice.Lib

variable {Key : Type} [DecidableEq Key]

/-! ## What one move does to the registry -/

/-- An operation on one key leaves the circuit of every other key alone. -/
theorem recordVerdict_of_ne (registry : BreakerRegistry Key) {key other : Key}
    (hne : other ≠ key) (now : ℚ) (verdict : Verdict) :
    (recordVerdict registry key now verdict).states other = registry.states other ∧
      (other ∈ (recordVerdict registry key now verdict).trialInFlight ↔
        other ∈ registry.trialInFlight) := by
  have hfailure : (registry.recordTransportFailure key now).states other =
      registry.states other := by
    simp [BreakerRegistry.recordTransportFailure, Function.update_of_ne hne]
  cases verdict with
  | nothing => exact ⟨rfl, Iff.rfl⟩
  | transportFailure =>
      exact ⟨hfailure, by simp [recordVerdict, BreakerRegistry.recordTransportFailure, hne]⟩
  | release => exact ⟨rfl, by simp [recordVerdict, BreakerRegistry.releaseTrial, hne]⟩
  | response status =>
      rw [recordVerdict, registry.recordResponse_eq_ok]
      cases healthOf status.1 with
      | failure => exact ⟨hfailure, by simp [BreakerRegistry.recordTransportFailure, hne]⟩
      | success =>
          exact ⟨by simp [BreakerRegistry.recordSuccess, Function.update_of_ne hne],
            by simp [BreakerRegistry.recordSuccess, hne]⟩
      | neutral => exact ⟨rfl, by simp [BreakerRegistry.releaseTrial, hne]⟩

/-- Every verdict that discards really removes the key from the trial set. -/
theorem notMem_recordVerdict (registry : BreakerRegistry Key) (key : Key) (now : ℚ)
    {verdict : Verdict} (hdiscards : verdict.discards = true) :
    key ∉ (recordVerdict registry key now verdict).trialInFlight := by
  cases verdict with
  | nothing => cases hdiscards
  | transportFailure => simp [recordVerdict, BreakerRegistry.recordTransportFailure]
  | release => simp [recordVerdict, BreakerRegistry.releaseTrial]
  | response status =>
      rw [recordVerdict, registry.recordResponse_eq_ok]
      cases healthOf status.1 with
      | failure => simp [BreakerRegistry.recordTransportFailure]
      | success => simp [BreakerRegistry.recordSuccess]
      | neutral => simp [BreakerRegistry.releaseTrial]

theorem verdict_eq_nothing {verdict : Verdict} (hkeeps : verdict.discards = false) :
    verdict = .nothing := by
  cases verdict with
  | nothing => rfl
  | response | transportFailure | release => cases hkeeps

/-- Everything a scheduled step can do: refuse an admission, admit through a
closed circuit, admit a trial, or carry out a move. -/
theorem step_cases {circuit next : Circuit Key} {event : CircuitEvent Key}
    (hstep : circuit.step event = some next) :
    (∃ call kind key default now, event = .admitCall call kind key default now ∧
      circuit.calls call = .idle ∧
      (next = { circuit with calls := Function.update circuit.calls call (.ended key) } ∨
        (circuit.registry.states key).isOpen = false ∧
          next = { circuit with calls := Function.update circuit.calls call (kind.entry key) } ∨
        (circuit.registry.states key).isOpen = true ∧
          next = circuit.enterTrial call kind key)) ∨
    (∃ call signal now move, event = .advance call signal now ∧
      (circuit.calls call).advance signal = some move ∧
      next = circuit.settle call move now) := by
  cases event with
  | admitCall call kind key default now =>
      left
      refine ⟨call, kind, key, default, now, rfl, ?_⟩
      simp only [step, stepAdmit] at hstep
      by_cases hidle : circuit.calls call = .idle
      · refine ⟨hidle, ?_⟩
        rw [if_pos hidle] at hstep
        cases hadmitted : (circuit.registry.admitCall key default now).1 with
        | false =>
            left
            simpa [hadmitted] using hstep.symm
        | true =>
            right
            cases hopen : (circuit.registry.states key).isOpen with
            | false =>
                left
                have hsame := circuit.registry.admit_of_closed key default now hopen
                simpa [hsame, hopen] using hstep.symm
            | true =>
                right
                have hmarked := BreakerRegistry.admit_of_open hopen hadmitted
                refine ⟨rfl, ?_⟩
                simpa [hadmitted, hmarked, hopen, enterTrial] using hstep.symm
      · rw [if_neg hidle] at hstep
        cases hstep
  | advance call signal now =>
      right
      simp only [step, Option.map_eq_some_iff] at hstep
      obtain ⟨move, hmove, rfl⟩ := hstep
      exact ⟨call, signal, now, move, rfl, hmove, rfl⟩

/-! ## At most one trial -/

/-- Every outstanding trial is marked, and its circuit is still open. -/
def TrialsMarked (circuit : Circuit Key) : Prop :=
  ∀ call key, circuit.trial call = some key →
    key ∈ circuit.registry.trialInFlight ∧ (circuit.registry.states key).isOpen = true

/-- The step does not let one call settle over another call's outstanding
trial: a verdict other than a success, or a release, of the same key. -/
def SettlesOwnTrial (circuit : Circuit Key) : CircuitEvent Key → Prop
  | .admitCall .. => True
  | .advance call signal _ =>
      ∀ move, (circuit.calls call).advance signal = some move →
        move.verdict.discards = true → move.verdict.closes = false →
          ∀ other, other ≠ call → circuit.trial other ≠ some move.key

theorem trialsMarked_settle {circuit : Circuit Key} {call : Nat} {signal : Signal}
    {move : Move Key} (now : ℚ) (hmarked : circuit.TrialsMarked)
    (hmove : (circuit.calls call).advance signal = some move)
    (hown : circuit.SettlesOwnTrial (.advance call signal now)) :
    (circuit.settle call move now).TrialsMarked := by
  intro other key htrial
  simp only [settle] at htrial ⊢
  split at htrial
  · cases htrial
  · rename_i hkept
    obtain ⟨hmem, hopen⟩ := hmarked other key htrial
    cases hdiscards : move.verdict.discards with
    | false =>
        rw [verdict_eq_nothing hdiscards]
        exact ⟨hmem, hopen⟩
    | true =>
        have hother : other ≠ call := fun h => hkept (.inl ⟨hdiscards, h⟩)
        have hne : key ≠ move.key := by
          intro hkey
          subst hkey
          cases hcloses : move.verdict.closes with
          | false => exact hown move hmove hdiscards hcloses other hother htrial
          | true => exact hkept (.inr ⟨hcloses, htrial⟩)
        obtain ⟨hstates, htrials⟩ :=
          recordVerdict_of_ne circuit.registry hne now move.verdict
        exact ⟨htrials.mpr hmem, by rw [hstates]; exact hopen⟩

theorem trialsMarked_step {circuit next : Circuit Key} {event : CircuitEvent Key}
    (hmarked : circuit.TrialsMarked) (hown : circuit.SettlesOwnTrial event)
    (hstep : circuit.step event = some next) : next.TrialsMarked := by
  obtain ⟨call, kind, key, default, now, rfl, -, hcases⟩ |
    ⟨call, signal, now, move, rfl, hmove, rfl⟩ := step_cases hstep
  · rcases hcases with rfl | ⟨-, rfl⟩ | ⟨hopen, rfl⟩
    · exact hmarked
    · exact hmarked
    · intro other held htrial
      by_cases hother : other = call
      · subst hother
        simp only [enterTrial, Function.update_self, Option.some.injEq] at htrial
        subst htrial
        exact ⟨Finset.mem_insert_self _ _, hopen⟩
      · simp only [enterTrial, Function.update_of_ne hother] at htrial
        exact ⟨Finset.mem_insert_of_mem (hmarked other held htrial).1,
          (hmarked other held htrial).2⟩
  · exact trialsMarked_settle now hmarked hmove hown

/-- In every run whose calls settle no other call's outstanding trial, a circuit
with a trial outstanding admits nobody, whatever the clock says. -/
theorem admit_refused_while_trial_outstanding :
    ∀ circuit : Circuit Key, (system Key).ReachableUnder SettlesOwnTrial circuit →
      ∀ call key, circuit.trial call = some key →
        ∀ default now, (circuit.registry.admitCall key default now).1 = false := by
  intro circuit hreach call key htrial default now
  have hmarked : circuit.TrialsMarked := by
    refine hreach.invariant ?_ (fun _ _ _ => trialsMarked_step)
    rintro _ ⟨_, _, _, _, rfl⟩ _ _ hnone
    cases hnone
  obtain ⟨hmem, hopen⟩ := hmarked call key htrial
  exact (circuit.registry.admit_fst_eq_false_iff key default now).mpr ⟨hopen, .inr hmem⟩

/-- A run with one opened circuit and one trial meets the condition. -/
theorem admit_refused_while_second_call_tries :
    ∃ circuit : Circuit CircuitKey,
      (system CircuitKey).ReachableUnder SettlesOwnTrial circuit ∧
        circuit.trial 1 = some ⟨"https://portal.example", "anonymous"⟩ ∧
        (circuit.registry.admitCall ⟨"https://portal.example", "anonymous"⟩ 0 60).1 = false := by
  let key : CircuitKey := ⟨"https://portal.example", "anonymous"⟩
  have hstart : (system CircuitKey).ReachableUnder SettlesOwnTrial
      (fresh (BreakerRegistry.initial 1 30 (by decide) (by decide))) :=
    .start ⟨1, 30, by decide, by decide, rfl⟩
  have hadmitted := hstart.take (.admitCall 0 .syncDispatch key 0 0) trivial (by decide +kernel)
  have hsent := hadmitted.take (.advance 0 .send 0)
    (fun _ hmove hdiscards => by cases hmove; cases hdiscards) (by decide +kernel)
  have hopened := hsent.take (.advance 0 (.sent .transportError) 0)
    (fun _ _ _ _ _ _ htrial => by cases htrial) (by decide +kernel)
  have htrial := hopened.take (.admitCall 1 .syncDispatch key 0 30) trivial (by decide +kernel)
  exact ⟨_, htrial, by decide +kernel,
    admit_refused_while_trial_outstanding _ htrial 1 _ (by decide +kernel) 0 60⟩

/-- A slow call admitted while the circuit was closed answers 404 during
another call's trial: the marker is gone and a third call is admitted. -/
theorem admit_not_refused_after_foreign_verdict :
    ¬ ∀ circuit : Circuit CircuitKey, (system CircuitKey).Reachable circuit →
      ∀ call key, circuit.trial call = some key →
        ∀ default now, (circuit.registry.admitCall key default now).1 = false := by
  intro hclaim
  let key : CircuitKey := ⟨"https://portal.example", "anonymous"⟩
  obtain ⟨circuit, hreach, htest⟩ := (system CircuitKey).exists_reachable_of_run
    (fresh (BreakerRegistry.initial 1 30 (by decide) (by decide)))
    ⟨1, 30, by decide, by decide, rfl⟩
    [ .admitCall 0 .syncDispatch key 0 0, .advance 0 .send 0
    , .admitCall 1 .syncDispatch key 0 0, .advance 1 .send 0
    , .advance 1 (.sent .transportError) 0
    , .admitCall 2 .syncDispatch key 0 30, .advance 2 .send 30
    , .advance 0 (.sent (.response 404)) 31 ]
    (fun circuit => decide (circuit.trial 2 = some key) &&
      (circuit.registry.admitCall key 0 31).1)
    (by decide +kernel)
  simp only [Bool.and_eq_true, decide_eq_true_eq] at htest
  rw [hclaim circuit hreach 2 key htest.1 0 31] at htest
  exact Bool.noConfusion htest.2

/-! ## No trial outlives its call -/

/-- The ghost marker follows the trial set: a key is in the set exactly because
of one call, and that call may still hold it unless it left without settling. -/
structure MarkersTracked (circuit : Circuit Key) : Prop where
  owned : ∀ key ∈ circuit.registry.trialInFlight, ∃ call, circuit.marker key = some call
  marked : ∀ key call, circuit.marker key = some call → key ∈ circuit.registry.trialInFlight
  held : ∀ key call, circuit.marker key = some call →
    (circuit.calls call).holds = some key ∨ circuit.calls call = .ended key

/-- The key is in the trial set, and it is there because of this call. -/
def HeldBecauseOf (circuit : Circuit Key) (call : Nat) (key : Key) : Prop :=
  key ∈ circuit.registry.trialInFlight ∧ circuit.marker key = some call

/-- The step is not a refresh that was admitted as the half-open trial and now
leaves by a `BaseException` out of its send or because its deadline could not
be built. -/
def SettlesOnExit (circuit : Circuit Key) : CircuitEvent Key → Prop
  | .admitCall .. => True
  | .advance call signal _ =>
      (circuit.calls call).leaks signal = true →
        ∀ key, (circuit.calls call).inFlight = some key → circuit.marker key ≠ some call

omit [DecidableEq Key] in
theorem held_update_idle {circuit : Circuit Key} {call : Nat} (state : CallState Key)
    (htracked : circuit.MarkersTracked) (hidle : circuit.calls call = .idle)
    {key : Key} {holder : Nat} (hmarker : circuit.marker key = some holder) :
    (Function.update circuit.calls call state holder).holds = some key ∨
      Function.update circuit.calls call state holder = .ended key := by
  have hheld := htracked.held key holder hmarker
  have hne : holder ≠ call := by
    intro h
    rw [h, hidle] at hheld
    rcases hheld with hheld | hheld <;> cases hheld
  rw [Function.update_of_ne hne]
  exact hheld

omit [DecidableEq Key] in
theorem markersTracked_admit {circuit : Circuit Key} {call : Nat} (state : CallState Key)
    (htracked : circuit.MarkersTracked) (hidle : circuit.calls call = .idle) :
    MarkersTracked { circuit with calls := Function.update circuit.calls call state } where
  owned := htracked.owned
  marked := htracked.marked
  held _ _ hmarker := held_update_idle state htracked hidle hmarker

theorem markersTracked_enterTrial {circuit : Circuit Key} {call : Nat} (kind : CallKind)
    (key : Key) (htracked : circuit.MarkersTracked) (hidle : circuit.calls call = .idle) :
    (circuit.enterTrial call kind key).MarkersTracked where
  owned marked hmem := by
    by_cases hmarked : marked = key
    · subst hmarked
      exact ⟨call, by simp [enterTrial]⟩
    · obtain ⟨holder, hholder⟩ :=
        htracked.owned marked (Finset.mem_of_mem_insert_of_ne hmem hmarked)
      exact ⟨holder, by simpa [enterTrial, Function.update_of_ne hmarked] using hholder⟩
  marked marked holder hmarker := by
    by_cases hmarked : marked = key
    · subst hmarked
      exact Finset.mem_insert_self _ _
    · simp only [enterTrial, Function.update_of_ne hmarked] at hmarker
      exact Finset.mem_insert_of_mem (htracked.marked marked holder hmarker)
  held marked holder hmarker := by
    by_cases hmarked : marked = key
    · subst hmarked
      simp only [enterTrial, Function.update_self, Option.some.injEq] at hmarker
      subst hmarker
      left
      simpa [enterTrial] using CallState.entry_holds kind marked
    · simp only [enterTrial, Function.update_of_ne hmarked] at hmarker
      exact held_update_idle (kind.entry key) htracked hidle hmarker

omit [DecidableEq Key] in
/-- A move that settles nothing hands the trial on to the call's next state, or
ends the call by one of the leaking exits. -/
theorem held_settle_self {circuit : Circuit Key} {call : Nat} {signal : Signal}
    {move : Move Key} {key : Key} (htracked : circuit.MarkersTracked)
    (hmove : (circuit.calls call).advance signal = some move)
    (hsilent : move.verdict = .nothing) (hmarker : circuit.marker key = some call) :
    move.key = key ∧ (move.next.holds = some key ∨
      move.next = .ended key ∧ (circuit.calls call).leaks signal = true) := by
  have hinFlight := CallState.inFlight_of_advance hmove
  rcases htracked.held key call hmarker with hholds | hended
  · have hkey : move.key = key :=
      Option.some.inj (hinFlight.symm.trans (CallState.inFlight_of_holds hholds))
    refine ⟨hkey, ?_⟩
    rcases CallState.holds_of_silent_advance hmove hsilent with hnext | hnone | hleaks
    · exact .inl (hkey ▸ hnext)
    · rw [hnone] at hholds
      cases hholds
    · exact .inr ⟨hkey ▸ CallState.ended_of_leaks hmove hleaks, hleaks⟩
  · rw [hended] at hinFlight
    cases hinFlight

theorem markersTracked_settle {circuit : Circuit Key} {call : Nat} {signal : Signal}
    {move : Move Key} (now : ℚ) (htracked : circuit.MarkersTracked)
    (hmove : (circuit.calls call).advance signal = some move) :
    (circuit.settle call move now).MarkersTracked := by
  have hinFlight := CallState.inFlight_of_advance hmove
  cases hdiscards : move.verdict.discards with
  | false =>
      have hsilent := verdict_eq_nothing hdiscards
      have hregistry : (circuit.settle call move now).registry = circuit.registry := by
        simp [settle, hsilent, recordVerdict]
      have hmarkers : (circuit.settle call move now).marker = circuit.marker := by
        simp [settle, hdiscards]
      refine ⟨?_, ?_, ?_⟩
      · rw [hregistry, hmarkers]
        exact htracked.owned
      · rw [hregistry, hmarkers]
        exact htracked.marked
      · intro key holder hmarker
        rw [hmarkers] at hmarker
        by_cases hholder : holder = call
        · subst hholder
          obtain ⟨-, hnext | ⟨hnext, -⟩⟩ := held_settle_self htracked hmove hsilent hmarker
          · exact .inl (by simpa [settle] using hnext)
          · exact .inr (by simpa [settle] using hnext)
        · simpa [settle, Function.update_of_ne hholder] using htracked.held key holder hmarker
  | true =>
      have hmarkers : (circuit.settle call move now).marker =
          Function.update circuit.marker move.key none := by
        simp [settle, hdiscards]
      have hother {key : Key} (hne : key ≠ move.key) :=
        (recordVerdict_of_ne circuit.registry hne now move.verdict).2
      refine ⟨?_, ?_, ?_⟩
      · intro key hmem
        have hne : key ≠ move.key := by
          intro h
          subst h
          exact notMem_recordVerdict circuit.registry move.key now hdiscards hmem
        rw [hmarkers, Function.update_of_ne hne]
        exact htracked.owned key ((hother hne).mp hmem)
      · intro key holder hmarker
        have hne : key ≠ move.key := by
          intro h
          rw [hmarkers, h, Function.update_self] at hmarker
          cases hmarker
        rw [hmarkers, Function.update_of_ne hne] at hmarker
        exact (hother hne).mpr (htracked.marked key holder hmarker)
      · intro key holder hmarker
        have hne : key ≠ move.key := by
          intro h
          rw [hmarkers, h, Function.update_self] at hmarker
          cases hmarker
        rw [hmarkers, Function.update_of_ne hne] at hmarker
        have hheld := htracked.held key holder hmarker
        have hholder : holder ≠ call := by
          intro h
          subst h
          rcases hheld with hholds | hended
          · exact hne (Option.some.inj
              ((CallState.inFlight_of_holds hholds).symm.trans hinFlight))
          · rw [hended] at hinFlight
            cases hinFlight
        simpa [settle, Function.update_of_ne hholder] using hheld

theorem markersTracked_step {circuit next : Circuit Key} {event : CircuitEvent Key}
    (htracked : circuit.MarkersTracked) (hstep : circuit.step event = some next) :
    next.MarkersTracked := by
  obtain ⟨call, kind, key, default, now, rfl, hidle, hcases⟩ |
    ⟨call, signal, now, move, rfl, hmove, rfl⟩ := step_cases hstep
  · rcases hcases with rfl | ⟨-, rfl⟩ | ⟨-, rfl⟩
    · exact markersTracked_admit _ htracked hidle
    · exact markersTracked_admit _ htracked hidle
    · exact markersTracked_enterTrial kind key htracked hidle
  · exact markersTracked_settle now htracked hmove

theorem markersTracked_fresh {circuit : Circuit Key} (hinit : (system Key).init circuit) :
    circuit.MarkersTracked := by
  obtain ⟨_, _, _, _, rfl⟩ := hinit
  refine ⟨fun _ hmem => absurd hmem (Finset.notMem_empty _), ?_, ?_⟩
  · intro key call hmarker
    cases hmarker
  · intro key call hmarker
    cases hmarker

/-- An ending move leaves the key in the trial set because of the call exactly
when it is one of the leaking exits of a call that was admitted as the trial. -/
theorem not_heldBecauseOf_iff_of_tracked {circuit : Circuit Key} {call : Nat}
    {signal : Signal} {move : Move Key} {key : Key} (now : ℚ)
    (htracked : circuit.MarkersTracked)
    (hmove : (circuit.calls call).advance signal = some move)
    (hended : move.next = .ended key) :
    ¬ (circuit.settle call move now).HeldBecauseOf call key ↔
      circuit.SettlesOnExit (.advance call signal now) := by
  have hinFlight := CallState.inFlight_of_advance hmove
  have hkey := CallState.key_of_ended hmove hended
  refine ⟨fun hnot hleaks held hheld hmarker => hnot ?_, fun hexit => ?_⟩
  · have hsilent := CallState.silent_of_leaks hmove hleaks
    have hsame : held = key := by
      apply Option.some.inj
      calc some held
        _ = (circuit.calls call).inFlight := hheld.symm
        _ = some move.key := hinFlight
        _ = some key := by rw [hkey]
    subst hsame
    exact ⟨by simpa [settle, hsilent, recordVerdict] using htracked.marked held call hmarker,
      by simpa [settle, hsilent, Verdict.discards] using hmarker⟩
  · rintro ⟨-, hmarker⟩
    cases hdiscards : move.verdict.discards with
    | true => simp [settle, hdiscards, hkey] at hmarker
    | false =>
        replace hmarker : circuit.marker key = some call := by
          simpa [settle, hdiscards] using hmarker
        obtain ⟨-, hholds | ⟨-, hleaks⟩⟩ :=
          held_settle_self htracked hmove (verdict_eq_nothing hdiscards) hmarker
        · rw [hended] at hholds
          cases hholds
        · exact hexit hleaks key (by rw [hinFlight, hkey]) hmarker

/-- No ended call is the reason a key is marked. -/
def NoneLeaked (circuit : Circuit Key) : Prop :=
  ∀ call key, circuit.calls call = .ended key → ¬ circuit.HeldBecauseOf call key

omit [DecidableEq Key] in
theorem noneLeaked_of_update_idle {circuit : Circuit Key} {call : Nat} (state : CallState Key)
    (htracked : circuit.MarkersTracked) (hnone : circuit.NoneLeaked)
    (hidle : circuit.calls call = .idle) :
    NoneLeaked { circuit with calls := Function.update circuit.calls call state } := by
  rintro holder key hended ⟨hmem, hmarker⟩
  have hne : holder ≠ call := by
    intro h
    subst h
    have hheld := htracked.held key holder hmarker
    rw [hidle] at hheld
    rcases hheld with hheld | hheld <;> cases hheld
  exact hnone holder key (by simpa [Function.update_of_ne hne] using hended) ⟨hmem, hmarker⟩

theorem noneLeaked_step {circuit next : Circuit Key} {event : CircuitEvent Key}
    (htracked : circuit.MarkersTracked) (hnone : circuit.NoneLeaked)
    (hexit : circuit.SettlesOnExit event) (hstep : circuit.step event = some next) :
    next.NoneLeaked := by
  obtain ⟨call, kind, key, default, now, rfl, hidle, hcases⟩ |
    ⟨call, signal, now, move, rfl, hmove, rfl⟩ := step_cases hstep
  · rcases hcases with rfl | ⟨-, rfl⟩ | ⟨-, rfl⟩
    · exact noneLeaked_of_update_idle _ htracked hnone hidle
    · exact noneLeaked_of_update_idle _ htracked hnone hidle
    · rintro holder held hended hheld
      by_cases hholder : holder = call
      · subst hholder
        have hentry := CallState.entry_holds kind key
        rw [show kind.entry key = .ended held by simpa [enterTrial] using hended] at hentry
        cases hentry
      · have hne : held ≠ key := by
          intro h
          subst h
          exact hholder (by simpa [enterTrial, eq_comm] using hheld.2)
        exact hnone holder held
          (by simpa [enterTrial, Function.update_of_ne hholder] using hended)
          ⟨Finset.mem_of_mem_insert_of_ne hheld.1 hne,
            by simpa [enterTrial, Function.update_of_ne hne] using hheld.2⟩
  · rintro holder key hended hheld
    by_cases hholder : holder = call
    · subst hholder
      exact (not_heldBecauseOf_iff_of_tracked now htracked hmove
        (by simpa [settle] using hended)).mpr hexit hheld
    · have hmarker : circuit.marker key = some holder := by
        cases hdiscards : move.verdict.discards with
        | false => simpa [HeldBecauseOf, settle, hdiscards] using hheld.2
        | true =>
            by_cases hkey : key = move.key
            · simp [HeldBecauseOf, settle, hdiscards, hkey] at hheld
            · simpa [settle, hdiscards, Function.update_of_ne hkey] using hheld.2
      exact hnone holder key (by simpa [settle, Function.update_of_ne hholder] using hended)
        ⟨htracked.marked key holder hmarker, hmarker⟩

/-- Exits of admitted calls. Whatever the run before it, an exit leaves its key
marked because of the call unless it settles. In every run whose exits all
settle, no ended call is the reason a key is marked, and a key with no call in
flight is admitted once its circuit has cooled down. -/
theorem trial_settled_on_exit :
    (∀ circuit : Circuit Key, (system Key).Reachable circuit →
      ∀ call signal now next key,
        circuit.step (.advance call signal now) = some next → next.calls call = .ended key →
          (¬ next.HeldBecauseOf call key ↔
            circuit.SettlesOnExit (.advance call signal now))) ∧
    (∀ circuit : Circuit Key, (system Key).ReachableUnder SettlesOnExit circuit →
      (∀ call key, circuit.calls call = .ended key → ¬ circuit.HeldBecauseOf call key) ∧
      (∀ key, (∀ call, (circuit.calls call).inFlight ≠ some key) →
        ∀ default now, circuit.registry.CooledDown key default now →
          (circuit.registry.admitCall key default now).1 = true)) := by
  refine ⟨?_, ?_⟩
  · intro circuit hreach call signal now next key hstep hended
    have htracked : circuit.MarkersTracked :=
      hreach.invariant (fun _ => markersTracked_fresh)
        (fun _ _ _ htracked _ => markersTracked_step htracked)
    simp only [step, Option.map_eq_some_iff] at hstep
    obtain ⟨move, hmove, rfl⟩ := hstep
    exact not_heldBecauseOf_iff_of_tracked now htracked hmove (by simpa [settle] using hended)
  · intro circuit hreach
    have hstart : ∀ state : Circuit Key, (system Key).init state →
        state.MarkersTracked ∧ state.NoneLeaked := by
      intro state hinit
      refine ⟨markersTracked_fresh hinit, ?_⟩
      obtain ⟨_, _, _, _, rfl⟩ := hinit
      intro call key hended
      cases hended
    have hkeep : ∀ (source : Circuit Key) event target,
        source.MarkersTracked ∧ source.NoneLeaked → source.SettlesOnExit event →
          source.step event = some target → target.MarkersTracked ∧ target.NoneLeaked :=
      fun _ _ _ hboth hexit hstep =>
        ⟨markersTracked_step hboth.1 hstep, noneLeaked_step hboth.1 hboth.2 hexit hstep⟩
    obtain ⟨htracked, hnone⟩ := hreach.invariant hstart hkeep
    refine ⟨hnone, fun key hquiet default now hcooled => ?_⟩
    have hunmarked : key ∉ circuit.registry.trialInFlight := by
      intro hmem
      obtain ⟨holder, hmarker⟩ := htracked.owned key hmem
      rcases htracked.held key holder hmarker with hholds | hended
      · exact hquiet holder (CallState.inFlight_of_holds hholds)
      · exact hnone holder key hended ⟨hmem, hmarker⟩
    have hnot := mt (circuit.registry.admit_fst_eq_false_iff key default now).mp
      (fun h => h.2.elim (fun hcold => hcold hcooled) hunmarked)
    simpa using hnot

/-- A client call cancelled inside its trial send gives the trial back. -/
theorem cancelled_dispatch_settles :
    ∃ circuit : Circuit CircuitKey,
      (system CircuitKey).ReachableUnder SettlesOnExit circuit ∧
        circuit.calls 1 = .ended ⟨"https://portal.example", "anonymous"⟩ ∧
        ¬ circuit.HeldBecauseOf 1 ⟨"https://portal.example", "anonymous"⟩ := by
  let key : CircuitKey := ⟨"https://portal.example", "anonymous"⟩
  have hstart : (system CircuitKey).ReachableUnder SettlesOnExit
      (fresh (BreakerRegistry.initial 1 30 (by decide) (by decide))) :=
    .start ⟨1, 30, by decide, by decide, rfl⟩
  have hadmitted := hstart.take (.admitCall 0 .asyncDispatch key 0 0) trivial (by decide +kernel)
  have hsent := hadmitted.take (.advance 0 .send 0) (fun h => by cases h) (by decide +kernel)
  have hopened := hsent.take (.advance 0 (.sent .transportError) 0) (fun h => by cases h)
    (by decide +kernel)
  have htrial := hopened.take (.admitCall 1 .asyncDispatch key 0 30) trivial (by decide +kernel)
  have htried := htrial.take (.advance 1 .send 30) (fun h => absurd h (by decide +kernel))
    (by decide +kernel)
  have hended := htried.take (.advance 1 (.sent .baseException) 31)
    (fun h => absurd h (by decide +kernel)) (by decide +kernel)
  exact ⟨_, hended, by decide +kernel,
    (trial_settled_on_exit.2 _ hended).1 1 key (by decide +kernel)⟩

/-- A refresh admitted as the half-open trial is cancelled inside its send: the
key stays marked because of it, and no later admission succeeds. -/
theorem trial_leaked_by_cancelled_refresh :
    ¬ ∀ circuit : Circuit CircuitKey, (system CircuitKey).Reachable circuit →
      (∀ call key, circuit.calls call = .ended key → ¬ circuit.HeldBecauseOf call key) ∧
      (∀ key, (∀ call, (circuit.calls call).inFlight ≠ some key) →
        ∀ default now, circuit.registry.CooledDown key default now →
          (circuit.registry.admitCall key default now).1 = true) := by
  intro hclaim
  let key : CircuitKey := ⟨"https://portal.example", "oauth-0f1e2d3c4b5a6978"⟩
  obtain ⟨circuit, hreach, htest⟩ := (system CircuitKey).exists_reachable_of_run
    (fresh (BreakerRegistry.initial 1 30 (by decide) (by decide)))
    ⟨1, 30, by decide, by decide, rfl⟩
    [ .admitCall 0 .refreshAsync key 0 0, .advance 0 .deadlineBuilt 0, .advance 0 .send 0
    , .advance 0 (.sent .transportError) 0
    , .admitCall 1 .refreshAsync key 0 30, .advance 1 .deadlineBuilt 30, .advance 1 .send 30
    , .advance 1 (.sent .baseException) 31 ]
    (fun circuit => decide (circuit.calls 1 = .ended key) &&
      (decide (key ∈ circuit.registry.trialInFlight) &&
        decide (circuit.marker key = some 1)))
    (by decide +kernel)
  simp only [Bool.and_eq_true, decide_eq_true_eq] at htest
  exact (hclaim circuit hreach).1 1 key htest.1 htest.2

end DataSluice.Runtime.Circuit
