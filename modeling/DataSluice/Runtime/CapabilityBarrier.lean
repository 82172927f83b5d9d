/-
# Invalidation of capabilities is a barrier

A result that a probe came to is decided in one section: the one that reads it from the
cache, or the one in which a leader stores it and publishes its flight. No covering
invalidation lies between the start of the probe and that section, because an invalidation
drops the entries it covers and cancels the flights it finds, and a flight that is neither
cancelled nor completed is still in its dictionary.

The invariant is kept change by change. `CallOk` says what the shared fields must show for
one call, and `CallOk.mono` what a change to them may not disturb.
-/

import DataSluice.Runtime.CapabilityFlights

namespace DataSluice.Runtime.Capability

open DataSluice.Lib DataSluice.Lib.Url DataSluice.Domain

/-! ## What a flight can come to -/

namespace Flight

/-- A change that gives nobody a profile it did not give before. -/
def Silent (change : Flight → Flight) : Prop :=
  ∀ flight, (change flight).cancelled = flight.cancelled ∧
    ∀ decided, (change flight).outcome = some (.ok decided) → flight.outcome = some (.ok decided)

/-- A future that an error was set on, unless it was done, holds no new profile. -/
theorem getD_error_eq_ok {future : Option (Except Raised Decided)} {error : Raised}
    {decided : Decided} (h : some (future.getD (.error error)) = some (.ok decided)) :
    future = some (.ok decided) := by
  cases future with
  | none => cases h
  | some value => exact h

theorem silent_fail (operation : OperationId) (error : Raised) : Silent (fail operation error) := by
  intro flight
  cases flight with
  | sync flight => exact ⟨rfl, fun decided h => by simp [fail, outcome] at h⟩
  | async flight => exact ⟨rfl, fun decided => getD_error_eq_ok⟩

theorem silent_refuse (operation : OperationId) : Silent (refuse operation) := by
  intro flight
  cases flight with
  | sync flight => exact ⟨rfl, fun decided h => by simp [refuse, outcome] at h⟩
  | async flight => exact ⟨rfl, fun decided h => h⟩

theorem silent_settle : Silent settle := by
  intro flight
  cases flight with
  | sync flight => exact ⟨rfl, fun decided h => h⟩
  | async flight =>
      cases hcallback : flight.callback with
      | none =>
          have hsame : settle (.async flight) = .async flight := by simp only [settle, hcallback]
          rw [hsame]
          exact ⟨rfl, fun decided h => h⟩
      | some error =>
          simp only [settle, hcallback]
          exact ⟨rfl, fun decided => getD_error_eq_ok⟩

theorem silent_abandon (error : Raised) : Silent (abandon error) := by
  intro flight
  cases flight with
  | sync flight => exact ⟨rfl, fun decided h => h⟩
  | async flight => exact ⟨rfl, fun decided => getD_error_eq_ok⟩

@[simp] theorem cancelled_publish (decided : Decided) (flight : Flight) :
    (publish decided flight).cancelled = flight.cancelled := by
  cases flight <;> rfl

/-- Publishing gives the published profile or what was there. -/
theorem outcome_publish {decided found : Decided} {flight : Flight}
    (h : (publish decided flight).outcome = some (.ok found)) :
    flight.outcome = some (.ok found) ∨ found = decided := by
  cases flight with
  | sync flight =>
      cases herror : flight.error with
      | some error => simp [publish, outcome, herror] at h
      | none =>
          simp only [publish, outcome, herror, if_true, Option.some.injEq, Except.ok.injEq] at h
          exact .inr h.symm
  | async flight =>
      simp only [publish, outcome, Option.some.injEq] at h
      cases hfuture : flight.future with
      | none =>
          simp only [hfuture, Option.getD_none, Except.ok.injEq] at h
          exact .inr h.symm
      | some value =>
          left
          simpa [outcome, hfuture] using h

@[simp] theorem cancelled_cancel (error : Raised) (closed : Nat → Bool) (flight : Flight) :
    (cancel error closed flight).cancelled = true := by
  cases flight <;> rfl

theorem outcome_cancel {error : Raised} {closed : Nat → Bool} {decided : Decided} {flight : Flight}
    (h : (cancel error closed flight).outcome = some (.ok decided)) :
    flight.outcome = some (.ok decided) := by
  cases flight with
  | sync flight => simp [cancel, outcome] at h
  | async flight => exact h

@[simp] theorem cancelled_create (mode : Mode) (loop : Nat) :
    (create mode loop).cancelled = false := by
  cases mode <;> rfl

@[simp] theorem outcome_create (mode : Mode) (loop : Nat) : (create mode loop).outcome = none := by
  cases mode <;> rfl

end Flight

/-! ## The invariant -/

/-- A result was made for the operation and the credential scope of a key. -/
def Result.Fits (result : Result) (key : CacheKey) : Prop :=
  result.operation = key.operationId ∧ result.credentialScope = key.credentialScope

/-- A result that a probe came to was decided before any invalidation after the probe's
start. -/
def Decided.Current (decided : Decided) : Prop :=
  ∀ epoch, decided.result.probe = some epoch → epoch = decided.decidedAt

namespace Cache

/-- A flight that a call leads is in its dictionary as long as it is not cancelled. -/
structure Leads (cache : Cache) (slot : Slot) (flight : Nat) : Prop where
  created : flight < cache.flightCount
  madeFor : cache.flightSlot flight = slot
  listed : (cache.flight flight).cancelled = false → cache.flights slot = some flight

/-- A flight that a call follows is published, if at all, after the call's start. -/
structure Follows (cache : Cache) (slot : Slot) (startedAt flight : Nat) : Prop where
  created : flight < cache.flightCount
  madeFor : cache.flightSlot flight = slot
  later : ∀ decided, (cache.flight flight).outcome = some (.ok decided) →
    startedAt ≤ decided.decidedAt

/-- The shared fields agree with a call that is in a phase. -/
def PhaseOk (config : CacheConfig) (cache : Cache) (call : ResolveCall) : CallPhase → Prop
  | .idle | .missed => True
  | .leading flight => cache.Leads (config.slot call) flight
  | .probing flight epoch | .probed flight epoch _ _ =>
      cache.Leads (config.slot call) flight ∧
        ((cache.flight flight).cancelled = false → epoch = cache.epoch call.operation)
  | .following flight => cache.Follows (config.slot call) call.startedAt flight
  | .served entry now =>
      now - entry.timestamp < config.ttlSeconds ∧
        entry.payload.Fits (config.slot call).2 ∧
          ∀ epoch, entry.payload.probe = some epoch → epoch = call.startedAt
  | .ended (.error _) => True
  | .ended (.ok decided) =>
      decided.result.Fits (config.slot call).2 ∧ decided.Current ∧
        call.startedAt ≤ decided.decidedAt

/-- What holds of one call. -/
structure CallOk (config : CacheConfig) (cache : Cache) (call : ResolveCall) : Prop where
  started : call.startedAt ≤ cache.epoch call.operation
  phase : cache.PhaseOk config call call.phase

/-- What holds in every state of a run. -/
structure Consistent (config : CacheConfig) (cache : Cache) : Prop where
  entries : ∀ key entry, (key, entry) ∈ cache.entries → entry.payload.Fits key ∧
    ∀ epoch, entry.payload.probe = some epoch → epoch = cache.epoch key.operationId
  bounded : cache.entries.length ≤ maxCacheEntries
  listed : ∀ slot flight, cache.flights slot = some flight →
    flight < cache.flightCount ∧ cache.flightSlot flight = slot ∧
      (cache.flight flight).cancelled = false ∧
        ∀ decided, (cache.flight flight).outcome ≠ some (.ok decided)
  published : ∀ flight decided, (cache.flight flight).outcome = some (.ok decided) →
    decided.result.Fits (cache.flightSlot flight).2 ∧ decided.Current
  calls : ∀ call, CallOk config cache (cache.calls call)
  leaders : ∀ one two flight, (cache.calls one).phase.leads = some flight →
    (cache.calls two).phase.leads = some flight → one = two

variable {config : CacheConfig} {cache next : Cache}

/-- A change that keeps the flights a call leads or follows keeps what holds of the call. -/
theorem CallOk.mono {call : ResolveCall} (hok : CallOk config cache call)
    (hepoch : cache.epoch call.operation ≤ next.epoch call.operation)
    (hleads : ∀ flight, call.phase.leads = some flight →
      cache.Leads (config.slot call) flight → next.Leads (config.slot call) flight ∧
        ((next.flight flight).cancelled = false → (cache.flight flight).cancelled = false ∧
          next.epoch call.operation = cache.epoch call.operation))
    (hfollows : ∀ flight, cache.Follows (config.slot call) call.startedAt flight →
      next.Follows (config.slot call) call.startedAt flight) :
    CallOk config next call := by
  apply CallOk.mk (hok.started.trans hepoch)
  have hphase := hok.phase
  cases hcase : call.phase with
  | idle | missed => exact trivial
  | leading flight =>
      rw [hcase] at hphase hleads
      exact (hleads flight rfl hphase).1
  | probing flight epoch | probed flight epoch answer completedAt =>
      rw [hcase] at hphase hleads
      obtain ⟨hnext, hsame⟩ := hleads flight rfl hphase.1
      apply And.intro hnext
      intro hlive
      obtain ⟨hbefore, hkept⟩ := hsame hlive
      rw [hkept]
      exact hphase.2 hbefore
  | following flight =>
      rw [hcase] at hphase
      exact hfollows flight hphase
  | served entry now =>
      rw [hcase] at hphase
      exact hphase
  | ended outcome =>
      rw [hcase] at hphase
      cases outcome with
      | error error => exact trivial
      | ok decided => exact hphase

/-- A call leads a flight that was created for it. -/
theorem CallOk.leads {call : ResolveCall} (hok : CallOk config cache call) {flight : Nat}
    (hleads : call.phase.leads = some flight) : cache.Leads (config.slot call) flight := by
  have hphase := hok.phase
  cases hcase : call.phase with
  | leading led =>
      rw [hcase] at hleads hphase
      cases hleads
      exact hphase
  | probing led epoch | probed led epoch answer completedAt =>
      rw [hcase] at hleads hphase
      cases hleads
      exact hphase.1
  | _ =>
      rw [hcase] at hleads
      cases hleads

/-! ## Changes that keep it -/

/-- What holds of a call depends on the flights and the invalidations only. -/
theorem CallOk.of_flights {call : ResolveCall} (hok : CallOk config cache call)
    (hflights : next.flights = cache.flights) (hflight : next.flight = cache.flight)
    (hslot : next.flightSlot = cache.flightSlot) (hcount : next.flightCount = cache.flightCount)
    (hepoch : next.epoch = cache.epoch) : CallOk config next call := by
  apply hok.mono
  · rw [hepoch]
  · intro flight _ hleads
    rw [hflight, hepoch]
    refine ⟨⟨?_, ?_, ?_⟩, fun hlive => ⟨hlive, rfl⟩⟩
    · rw [hcount]
      exact hleads.created
    · rw [hslot]
      exact hleads.madeFor
    · rw [hflight, hflights]
      exact hleads.listed
  · intro flight hfollows
    apply Follows.mk
    · rw [hcount]
      exact hfollows.created
    · rw [hslot]
      exact hfollows.madeFor
    · rw [hflight]
      exact hfollows.later

/-- A call moves on without leading a flight it did not lead. -/
theorem Consistent.setCall (hok : Consistent config cache) {call : Nat} {record : ResolveCall}
    (hrecord : CallOk config cache record)
    (hleads : ∀ flight, record.phase.leads = some flight →
      (cache.calls call).phase.leads = some flight) :
    Consistent config { cache with calls := Function.update cache.calls call record } where
  entries := hok.entries
  bounded := hok.bounded
  listed := hok.listed
  published := hok.published
  calls other := by
    show CallOk config _ (Function.update cache.calls call record other)
    by_cases hother : other = call
    · rw [hother, Function.update_self]
      exact hrecord.of_flights rfl rfl rfl rfl rfl
    · rw [Function.update_of_ne hother]
      exact (hok.calls other).of_flights rfl rfl rfl rfl rfl
  leaders one two flight hone htwo := by
    have hbefore : ∀ other,
        (Function.update cache.calls call record other).phase.leads = some flight →
          (cache.calls other).phase.leads = some flight := by
      intro other h
      by_cases hother : other = call
      · rw [hother, Function.update_self] at h
        rw [hother]
        exact hleads flight h
      · rw [Function.update_of_ne hother] at h
        exact h
    exact hok.leaders one two flight (hbefore one hone) (hbefore two htwo)

theorem Consistent.goto (hok : Consistent config cache) {call : Nat} {phase : CallPhase}
    (hphase : PhaseOk config cache (cache.calls call) phase)
    (hleads : ∀ flight, phase.leads = some flight →
      (cache.calls call).phase.leads = some flight) : Consistent config (cache.goto call phase) :=
  hok.setCall ⟨(hok.calls call).started, hphase⟩ hleads

/-- A call starts in a phase in which it leads no flight. -/
theorem Consistent.start (hok : Consistent config cache) {call : Nat} {mode : Mode}
    {operation : OperationId} {credentialScope : String} {phase : CallPhase}
    (hphase : PhaseOk config cache
      ⟨mode, operation, credentialScope, cache.epoch operation, phase⟩ phase)
    (hleads : phase.leads = none) :
    Consistent config (cache.start call mode operation credentialScope phase) :=
  hok.setCall ⟨le_rfl, hphase⟩ fun flight h => by simp only [hleads, reduceCtorEq] at h

/-- The entries are replaced. -/
theorem Consistent.setEntries (hok : Consistent config cache)
    {entries : List (CacheKey × TimedCache.Entry Result)} {stores : List (CacheKey × ℚ)}
    (hentries : ∀ key entry, (key, entry) ∈ entries → entry.payload.Fits key ∧
      ∀ epoch, entry.payload.probe = some epoch → epoch = cache.epoch key.operationId)
    (hbounded : entries.length ≤ maxCacheEntries) :
    Consistent config { cache with entries := entries, stores := stores } where
  entries := hentries
  bounded := hbounded
  listed := hok.listed
  published := hok.published
  calls call := (hok.calls call).of_flights rfl rfl rfl rfl rfl
  leaders := hok.leaders

/-- An entry that fits its key, and is not older than any invalidation, is stored. -/
theorem Consistent.storeEntry (hok : Consistent config cache) {key : CacheKey} {result : Result}
    (hfits : result.Fits key)
    (hprobe : ∀ epoch, result.probe = some epoch → epoch = cache.epoch key.operationId)
    (timestamp : ℚ) : Consistent config (cache.storeEntry config key result timestamp) := by
  apply hok.setEntries
  · intro other entry hmem
    rcases TimedCache.mem_store hmem with ⟨rfl, rfl⟩ | ⟨-, hold⟩
    · exact ⟨hfits, hprobe⟩
    · exact hok.entries other entry hold
  · exact TimedCache.length_store_le (by decide) hok.bounded

/-- A lookup drops an entry at most. -/
theorem Consistent.lookup (hok : Consistent config cache) (key : CacheKey) (now : ℚ) :
    Consistent config { cache with entries := (config.freshEntry cache.entries key now).2 } := by
  have hsub := TimedCache.fresh_sublist config.ttlSeconds now cache.entries key
  apply hok.setEntries
  · intro other entry hmem
    exact hok.entries other entry (hsub.subset hmem)
  · exact hsub.length_le.trans hok.bounded

/-- A flight is changed without giving anybody a profile. -/
theorem Consistent.putFlight (hok : Consistent config cache) (flight : Nat)
    {change : Flight → Flight} (hsilent : Flight.Silent change) :
    Consistent config (cache.putFlight flight change) := by
  have hcancelled : ∀ other,
      ((cache.putFlight flight change).flight other).cancelled = (cache.flight other).cancelled := by
    intro other
    by_cases hother : other = flight
    · rw [hother, putFlight_flight_self, (hsilent _).1]
    · rw [putFlight_flight_of_ne cache hother]
  have houtcome : ∀ other decided,
      ((cache.putFlight flight change).flight other).outcome = some (.ok decided) →
        (cache.flight other).outcome = some (.ok decided) := by
    intro other decided h
    by_cases hother : other = flight
    · rw [hother, putFlight_flight_self] at h
      rw [hother]
      exact (hsilent _).2 decided h
    · rw [putFlight_flight_of_ne cache hother] at h
      exact h
  refine ⟨hok.entries, hok.bounded, ?_, ?_, ?_, hok.leaders⟩
  · intro slot other hlisted
    obtain ⟨hcreated, hslot, hlive, hnothing⟩ := hok.listed slot other hlisted
    exact ⟨hcreated, hslot, (hcancelled other).trans hlive,
      fun decided h => hnothing decided (houtcome other decided h)⟩
  · intro other decided h
    exact hok.published other decided (houtcome other decided h)
  · intro call
    apply CallOk.mono (hok.calls call)
    · exact le_rfl
    · intro other _ hleads
      rw [hcancelled other]
      refine ⟨⟨hleads.created, hleads.madeFor, fun hlive => hleads.listed ?_⟩,
        fun hlive => ⟨hlive, rfl⟩⟩
      rw [← hcancelled other]
      exact hlive
    · intro other hfollows
      exact ⟨hfollows.created, hfollows.madeFor,
        fun decided h => hfollows.later decided (houtcome other decided h)⟩

/-- A flight that no call leads is dropped from its dictionary. -/
theorem Consistent.discard (hok : Consistent config cache) (slot : Slot) {flight : Nat}
    (hleader : ∀ call, (cache.calls call).phase.leads ≠ some flight) :
    Consistent config (cache.discard slot flight) := by
  refine ⟨hok.entries, hok.bounded, ?_, hok.published, ?_, hok.leaders⟩
  · intro other found hlisted
    simp only [Cache.discard] at hlisted
    split at hlisted
    · cases hlisted
    · exact hok.listed other found hlisted
  · intro call
    apply CallOk.mono (hok.calls call)
    · exact le_rfl
    · intro found hfound hleads
      refine ⟨⟨hleads.created, hleads.madeFor, fun hlive => ?_⟩, fun hlive => ⟨hlive, rfl⟩⟩
      have hlisted := hleads.listed hlive
      simp only [Cache.discard]
      rw [if_neg, hlisted]
      rintro ⟨-, hsame⟩
      rw [hlisted] at hsame
      exact hleader call (hfound.trans hsame)
    · intro found hfollows
      exact ⟨hfollows.created, hfollows.madeFor, hfollows.later⟩

/-- A flight that is in no dictionary and that no call leads is published. -/
theorem Consistent.publish (hok : Consistent config cache) {flight : Nat} {decided : Decided}
    (hunlisted : ∀ slot, cache.flights slot ≠ some flight)
    (hfits : decided.result.Fits (cache.flightSlot flight).2) (hcurrent : decided.Current)
    (hdecided : decided.decidedAt = cache.epoch (cache.flightSlot flight).2.operationId) :
    Consistent config (cache.putFlight flight (Flight.publish decided)) := by
  have hcancelled : ∀ other,
      ((cache.putFlight flight (Flight.publish decided)).flight other).cancelled =
        (cache.flight other).cancelled := by
    intro other
    by_cases hother : other = flight
    · rw [hother, putFlight_flight_self, Flight.cancelled_publish]
    · rw [putFlight_flight_of_ne cache hother]
  have houtcome : ∀ other found,
      ((cache.putFlight flight (Flight.publish decided)).flight other).outcome =
        some (.ok found) → (cache.flight other).outcome = some (.ok found) ∨
          (other = flight ∧ found = decided) := by
    intro other found h
    by_cases hother : other = flight
    · rw [hother, putFlight_flight_self] at h
      rw [hother]
      exact (Flight.outcome_publish h).imp_right fun hfound => ⟨rfl, hfound⟩
    · rw [putFlight_flight_of_ne cache hother] at h
      exact .inl h
  refine ⟨hok.entries, hok.bounded, ?_, ?_, ?_, hok.leaders⟩
  · intro slot other hlisted
    obtain ⟨hcreated, hslot, hlive, hnothing⟩ := hok.listed slot other hlisted
    refine ⟨hcreated, hslot, (hcancelled other).trans hlive, fun found h => ?_⟩
    rcases houtcome other found h with hbefore | ⟨rfl, -⟩
    · exact hnothing found hbefore
    · exact hunlisted slot hlisted
  · intro other found h
    rcases houtcome other found h with hbefore | ⟨rfl, rfl⟩
    · exact hok.published other found hbefore
    · exact ⟨hfits, hcurrent⟩
  · intro call
    have hstarted := (hok.calls call).started
    apply CallOk.mono (hok.calls call)
    · exact le_rfl
    · intro other _ hleads
      rw [hcancelled other]
      refine ⟨⟨hleads.created, hleads.madeFor, fun hlive => hleads.listed ?_⟩,
        fun hlive => ⟨hlive, rfl⟩⟩
      rw [← hcancelled other]
      exact hlive
    · intro other hfollows
      refine ⟨hfollows.created, hfollows.madeFor, fun found h => ?_⟩
      rcases houtcome other found h with hbefore | ⟨rfl, rfl⟩
      · exact hfollows.later found hbefore
      · rw [hdecided, hfollows.madeFor]
        exact hstarted

/-- A call that finds no flight leads a new one. -/
theorem Consistent.lead (hok : Consistent config cache) {call : Nat} (loop : Nat)
    (hfree : cache.flights (config.slot (cache.calls call)) = none) :
    Consistent config (cache.lead config call loop) := by
  have hold : ∀ flight, flight < cache.flightCount →
      (cache.lead config call loop).flight flight = cache.flight flight ∧
        (cache.lead config call loop).flightSlot flight = cache.flightSlot flight := by
    intro flight hlt
    exact ⟨Function.update_of_ne hlt.ne _ _, Function.update_of_ne hlt.ne _ _⟩
  have hnew : (cache.lead config call loop).flight cache.flightCount =
      Flight.create (cache.calls call).mode loop := Function.update_self _ _ _
  have hnewSlot : (cache.lead config call loop).flightSlot cache.flightCount =
      config.slot (cache.calls call) := Function.update_self _ _ _
  have hleaders : ∀ other flight, ((cache.lead config call loop).calls other).phase.leads =
      some flight → (other = call ∧ flight = cache.flightCount) ∨
        (other ≠ call ∧ (cache.calls other).phase.leads = some flight) := by
    intro other flight h
    by_cases hother : other = call
    · subst hother
      rw [Cache.lead, Cache.goto] at h
      simp only [Function.update_self, CallPhase.leads, Option.some.injEq] at h
      exact .inl ⟨rfl, h.symm⟩
    · rw [Cache.lead, Cache.goto] at h
      simp only [Function.update_of_ne hother] at h
      exact .inr ⟨hother, h⟩
  refine ⟨hok.entries, hok.bounded, ?_, ?_, ?_, ?_⟩
  · intro slot flight hlisted
    by_cases hslot : slot = config.slot (cache.calls call)
    · rw [Cache.lead, hslot] at hlisted
      simp only [Function.update_self, Option.some.injEq] at hlisted
      subst hlisted
      refine ⟨Nat.lt_succ_self _, hnewSlot.trans hslot.symm, ?_, fun decided h => ?_⟩
      · rw [hnew, Flight.cancelled_create]
      · rw [hnew, Flight.outcome_create] at h
        cases h
    · rw [Cache.lead] at hlisted
      simp only [Function.update_of_ne hslot] at hlisted
      obtain ⟨hcreated, hmade, hlive, hnothing⟩ := hok.listed slot flight hlisted
      rw [(hold flight hcreated).1, (hold flight hcreated).2]
      exact ⟨hcreated.trans (Nat.lt_succ_self _), hmade, hlive, hnothing⟩
  · intro flight decided h
    by_cases hflight : flight = cache.flightCount
    · rw [hflight, hnew, Flight.outcome_create] at h
      cases h
    · have hsame : (cache.lead config call loop).flight flight = cache.flight flight ∧
          (cache.lead config call loop).flightSlot flight = cache.flightSlot flight :=
        ⟨Function.update_of_ne hflight _ _, Function.update_of_ne hflight _ _⟩
      rw [hsame.1] at h
      rw [hsame.2]
      exact hok.published flight decided h
  · intro other
    by_cases hother : other = call
    · subst hother
      have hrecord : (cache.lead config other loop).calls other =
          { cache.calls other with phase := .leading cache.flightCount } := Function.update_self _ _ _
      rw [hrecord]
      refine ⟨(hok.calls other).started, ⟨Nat.lt_succ_self _, hnewSlot, fun _ => ?_⟩⟩
      exact Function.update_self _ _ _
    · have hrecord : (cache.lead config call loop).calls other = cache.calls other :=
        Function.update_of_ne hother _ _
      rw [hrecord]
      apply CallOk.mono (hok.calls other)
      · exact le_rfl
      · intro flight _ hleads
        obtain ⟨hflight, hmade⟩ := hold flight hleads.created
        rw [hflight]
        refine ⟨⟨hleads.created.trans (Nat.lt_succ_self _), hmade.trans hleads.madeFor, ?_⟩,
          fun h => ⟨h, rfl⟩⟩
        intro h
        rw [hflight] at h
        have hlisted := hleads.listed h
        have hslot : config.slot (cache.calls other) ≠ config.slot (cache.calls call) := by
          intro heq
          rw [heq, hfree] at hlisted
          cases hlisted
        rw [← hlisted]
        exact Function.update_of_ne hslot _ _
      · intro flight hfollows
        obtain ⟨hflight, hmade⟩ := hold flight hfollows.created
        refine ⟨hfollows.created.trans (Nat.lt_succ_self _), hmade.trans hfollows.madeFor, ?_⟩
        rw [hflight]
        exact hfollows.later
  · have hledOld : ∀ other flight, (cache.calls other).phase.leads = some flight →
        flight < cache.flightCount := fun other _ h => ((hok.calls other).leads h).created
    intro one two flight hone htwo
    rcases hleaders one flight hone with ⟨rfl, hflight⟩ | ⟨-, hbeforeOne⟩
    · rcases hleaders two flight htwo with ⟨rfl, -⟩ | ⟨-, hbeforeTwo⟩
      · rfl
      · exact absurd hflight (hledOld two flight hbeforeTwo).ne
    · rcases hleaders two flight htwo with ⟨rfl, hflight⟩ | ⟨-, hbeforeTwo⟩
      · exact absurd hflight (hledOld one flight hbeforeOne).ne
      · exact hok.leaders one two flight hbeforeOne hbeforeTwo

/-- An invalidation drops the entries it covers and cancels the flights it finds. -/
theorem Consistent.invalidate (hok : Consistent config cache) (target : Option OperationId)
    (closed : Nat → Bool) : Consistent config (cache.invalidate target closed) := by
  have hlive : ∀ flight, ((cache.invalidate target closed).flight flight).cancelled = false →
      cache.cancels target flight = false ∧ (cache.flight flight).cancelled = false := by
    intro flight h
    simp only [Cache.invalidate] at h
    cases hcancels : cache.cancels target flight with
    | true => simp [hcancels] at h
    | false => exact ⟨rfl, by simpa [hcancels] using h⟩
  have houtcome : ∀ flight decided,
      ((cache.invalidate target closed).flight flight).outcome = some (.ok decided) →
        (cache.flight flight).outcome = some (.ok decided) := by
    intro flight decided h
    simp only [Cache.invalidate] at h
    split at h
    · exact Flight.outcome_cancel h
    · exact h
  have hkept : ∀ operation, covers target operation = false →
      (cache.invalidate target closed).epoch operation = cache.epoch operation := by
    intro operation h
    simp [Cache.invalidate, h]
  refine ⟨?_, ?_, ?_, ?_, ?_, hok.leaders⟩
  · intro key entry hmem
    obtain ⟨hbefore, huncovered⟩ := List.mem_filter.mp hmem
    rw [hkept _ (by simpa using huncovered)]
    exact hok.entries key entry hbefore
  · exact (List.length_filter_le _ _).trans hok.bounded
  · intro slot flight hlisted
    simp only [Cache.invalidate] at hlisted
    split at hlisted
    · cases hlisted
    · rename_i huncovered
      obtain ⟨hcreated, hslot, hcancelled, hnothing⟩ := hok.listed slot flight hlisted
      refine ⟨hcreated, hslot, ?_, fun decided h => hnothing decided (houtcome _ _ h)⟩
      have hcancels : cache.cancels target flight = false := by
        rw [Cache.cancels, hslot]
        simp [huncovered]
      simp [Cache.invalidate, hcancels, hcancelled]
  · intro flight decided h
    exact hok.published flight decided (houtcome flight decided h)
  · intro call
    apply CallOk.mono (hok.calls call)
    · simp only [Cache.invalidate]
      split
      · exact Nat.le_succ _
      · exact le_rfl
    · intro flight _ hleads
      have huncovered : ((cache.invalidate target closed).flight flight).cancelled = false →
          cache.flights (config.slot (cache.calls call)) = some flight ∧
            covers target (cache.calls call).operation = false := by
        intro h
        obtain ⟨hcancels, hcancelled⟩ := hlive flight h
        have hlisted := hleads.listed hcancelled
        apply And.intro hlisted
        rw [Cache.cancels, hleads.madeFor, hlisted] at hcancels
        simpa using hcancels
      constructor
      · refine ⟨hleads.created, hleads.madeFor, fun h => ?_⟩
        obtain ⟨hlisted, hcovers⟩ := huncovered h
        simpa [Cache.invalidate, hcovers] using hlisted
      · intro h
        exact ⟨(hlive flight h).2, hkept _ (huncovered h).2⟩
    · intro flight hfollows
      exact ⟨hfollows.created, hfollows.madeFor,
        fun decided h => hfollows.later decided (houtcome flight decided h)⟩

/-! ## Every step keeps it -/

theorem Consistent.tick (hok : Consistent config cache) (now : ℚ) :
    Consistent config { cache with clock := now } where
  entries := hok.entries
  bounded := hok.bounded
  listed := hok.listed
  published := hok.published
  calls call := (hok.calls call).of_flights rfl rfl rfl rfl rfl
  leaders := hok.leaders

/-- What a lookup finds fits the key, is young, and is not older than any invalidation. -/
theorem Consistent.found (hok : Consistent config cache) {operation : OperationId}
    {credentialScope : String} {entry : TimedCache.Entry Result}
    (hfound : (config.freshEntry cache.entries (config.cacheKey operation credentialScope)
      cache.clock).1 = some entry) (mode : Mode) (phase : CallPhase) :
    PhaseOk config cache ⟨mode, operation, credentialScope, cache.epoch operation, phase⟩
      (.served entry cache.clock) := by
  obtain ⟨hmem, hyoung, -⟩ := TimedCache.fresh_eq_some hfound
  obtain ⟨hfits, hprobe⟩ := hok.entries _ entry hmem
  exact ⟨hyoung, hfits, hprobe⟩

/-- A call that probes nothing gets a profile that no probe came to. -/
theorem phaseOk_baseline (mode : Mode) (operation : OperationId) (credentialScope : String)
    (phase : CallPhase) :
    PhaseOk config next ⟨mode, operation, credentialScope, cache.epoch operation, phase⟩
      (.ended (.ok (cache.baselineResult config operation credentialScope))) := by
  refine ⟨⟨rfl, rfl⟩, fun epoch h => ?_, le_rfl⟩
  cases h

theorem Consistent.check (hok : Consistent config cache) (call : Nat) (mode : Mode)
    (operation : OperationId) (credentialScope : String) :
    Consistent config (cache.check config call mode operation credentialScope) := by
  have hlookup := hok.lookup (config.cacheKey operation credentialScope) cache.clock
  cases hfound : (config.freshEntry cache.entries (config.cacheKey operation credentialScope)
      cache.clock).1 with
  | some entry =>
      simp only [Cache.check, hfound]
      exact hlookup.start (hok.found hfound mode _) rfl
  | none =>
      simp only [Cache.check, hfound]
      split
      · exact hlookup.start (phaseOk_baseline mode operation credentialScope _) rfl
      · exact hlookup.start trivial rfl

theorem Consistent.peek (hok : Consistent config cache) (call : Nat)
    (operation : OperationId) (credentialScope : String) :
    Consistent config (cache.peek config call operation credentialScope) := by
  have hlookup := hok.lookup (config.cacheKey operation credentialScope) cache.clock
  cases hfound : (config.freshEntry cache.entries (config.cacheKey operation credentialScope)
      cache.clock).1 with
  | some entry =>
      simp only [Cache.peek, hfound]
      exact hlookup.start (hok.found hfound .sync _) rfl
  | none =>
      simp only [Cache.peek, hfound]
      exact hlookup.start (phaseOk_baseline .sync operation credentialScope _) rfl

/-- No call leads the flight of a leader that has come to its end. -/
theorem Consistent.leads_goto (hok : Consistent config cache) {call flight : Nat}
    (hleads : (cache.calls call).phase.leads = some flight) {phase : CallPhase}
    (hphase : phase.leads = none) (other : Nat) :
    ((cache.goto call phase).calls other).phase.leads ≠ some flight := by
  show (Function.update cache.calls call _ other).phase.leads ≠ some flight
  by_cases hother : other = call
  · rw [hother, Function.update_self, hphase]
    simp
  · rw [Function.update_of_ne hother]
    intro h
    exact hother (hok.leaders other call flight h hleads)

/-- The last section of a leader that raises: a silent change of its flight, which leaves its
dictionary. -/
theorem Consistent.endLeader (hok : Consistent config cache) {call flight : Nat}
    (hleads : (cache.calls call).phase.leads = some flight) {change : Flight → Flight}
    (hsilent : Flight.Silent change) (slot : Slot) (error : Raised) :
    Consistent config (((cache.putFlight flight change).discard slot flight).goto call
      (.ended (.error error))) := by
  have hended : Consistent config ((cache.putFlight flight change).goto call
      (.ended (.error error))) :=
    (hok.putFlight flight hsilent).goto trivial (fun _ h => by cases h)
  exact hended.discard slot ((hok.putFlight flight hsilent).leads_goto hleads rfl)

theorem Consistent.failLeader (hok : Consistent config cache) {call flight : Nat}
    (hleads : (cache.calls call).phase.leads = some flight) (error : Raised) :
    Consistent config (cache.failLeader config call flight error) :=
  hok.endLeader hleads (Flight.silent_fail _ error) _ error

theorem Consistent.completeLeader (hok : Consistent config cache) {call flight epoch : Nat}
    {profile : EffectiveCapabilityProfile} {completedAt : ℚ}
    (hphase : (cache.calls call).phase = .probed flight epoch (.ok profile) completedAt) :
    Consistent config (cache.completeLeader config call flight epoch profile completedAt) := by
  have hleads : (cache.calls call).phase.leads = some flight := by
    rw [hphase]
    rfl
  have hprobed := (hok.calls call).phase
  rw [hphase] at hprobed
  obtain ⟨hled, hepoch⟩ := hprobed
  cases hcancelled : (cache.flight flight).cancelled with
  | true =>
      simp only [Cache.completeLeader, hcancelled, if_true]
      exact hok.endLeader hleads (Flight.silent_refuse _) _ _
  | false =>
      simp only [Cache.completeLeader, hcancelled, Bool.false_eq_true, if_false]
      set result : Result := ⟨profile, (cache.calls call).operation,
        (cache.calls call).credentialScope, some epoch⟩ with hresult
      set decided : Decided := ⟨result, cache.epoch (cache.calls call).operation⟩ with hdecided
      have hfits : result.Fits (config.slot (cache.calls call)).2 := ⟨rfl, rfl⟩
      have hcurrent : decided.Current := by
        intro started h
        cases h
        exact hepoch hcancelled
      have hprobe : ∀ started, result.probe = some started →
          started = cache.epoch (config.slot (cache.calls call)).2.operationId := by
        intro started h
        cases h
        exact hepoch hcancelled
      have hstored := hok.storeEntry hfits hprobe completedAt
      have hended : Consistent config ((cache.storeEntry config
          (config.slot (cache.calls call)).2 result completedAt).goto call
            (.ended (.ok decided))) :=
        hstored.goto ⟨hfits, hcurrent, (hok.calls call).started⟩ (fun _ h => by cases h)
      have hdropped := hended.discard (config.slot (cache.calls call))
        (hstored.leads_goto hleads rfl)
      have hunlisted : ∀ slot,
          (cache.discard (config.slot (cache.calls call)) flight).flights slot ≠ some flight := by
        intro slot h
        simp only [Cache.discard] at h
        split at h
        · cases h
        · rename_i hother
          have hmade := (hok.listed slot flight h).2.1
          exact hother ⟨hmade.symm.trans hled.madeFor, h⟩
      have hslot : (cache.flightSlot flight).2 = (config.slot (cache.calls call)).2 := by
        rw [hled.madeFor]
      have hpublished := hdropped.publish hunlisted (hslot ▸ hfits) hcurrent
        (by rw [hdecided]; exact congrArg (fun key => cache.epoch key.operationId) hslot.symm)
      exact hpublished.setEntries hpublished.entries hpublished.bounded

theorem Consistent.recordEvidence (hok : Consistent config cache) (evidence : ProbeEvidence)
    (credentialScope : String) :
    Consistent config (cache.recordEvidence config evidence credentialScope) := by
  unfold Cache.recordEvidence
  simp only
  split
  · exact hok
  · exact hok.storeEntry ⟨rfl, rfl⟩ (fun _ h => by cases h) _

theorem Consistent.step (hok : Consistent config cache) {event : CacheEvent}
    (hstep : cache.step config event = some next) : Consistent config next := by
  cases event with
  | tick now =>
      simp only [Cache.step, Option.ite_none_right_eq_some] at hstep
      cases hstep.2
      exact hok.tick now
  | check call mode operation credentialScope =>
      simp only [Cache.step] at hstep
      split at hstep
      · simp only [Option.ite_none_left_eq_some] at hstep
        cases hstep.2
        exact hok.check call mode operation credentialScope
      · cases hstep
  | elect call loop =>
      simp only [Cache.step] at hstep
      split at hstep
      · rename_i hmissed
        split at hstep
        · rename_i flight hlisted
          cases hstep
          obtain ⟨hcreated, hslot, -, hnothing⟩ := hok.listed _ flight hlisted
          exact hok.goto ⟨hcreated, hslot, fun decided h => absurd h (hnothing decided)⟩
            (fun _ h => by cases h)
        · rename_i hfree
          cases hstep
          exact hok.lead loop hfree
      · cases hstep
  | startProbe call =>
      simp only [Cache.step] at hstep
      split at hstep
      · rename_i flight hleading
        cases hstep
        have hphase := (hok.calls call).phase
        rw [hleading] at hphase
        apply Consistent.goto hok
        · exact ⟨hphase, fun _ => rfl⟩
        · rw [hleading]
          exact fun _ h => h
      · cases hstep
  | endProbe call answer =>
      simp only [Cache.step] at hstep
      split at hstep
      · rename_i flight epoch hprobing
        cases hstep
        have hphase := (hok.calls call).phase
        rw [hprobing] at hphase
        apply Consistent.goto hok
        · exact hphase
        · rw [hprobing]
          exact fun _ h => h
      · cases hstep
  | complete call =>
      simp only [Cache.step] at hstep
      split at hstep
      · rename_i flight epoch error completedAt hprobed
        cases hstep
        apply hok.failLeader
        rw [hprobed]
        rfl
      · rename_i flight epoch profile completedAt hprobed
        cases hstep
        exact hok.completeLeader hprobed
      · cases hstep
  | wake call =>
      simp only [Cache.step] at hstep
      split at hstep
      · rename_i flight hfollowing
        simp only [Option.map_eq_some_iff] at hstep
        obtain ⟨outcome, houtcome, rfl⟩ := hstep
        have hphase := (hok.calls call).phase
        rw [hfollowing] at hphase
        apply hok.goto _ (fun _ h => by cases h)
        cases outcome with
        | error error => exact trivial
        | ok decided =>
            obtain ⟨hfits, hcurrent⟩ := hok.published flight decided houtcome
            rw [hphase.madeFor] at hfits
            exact ⟨hfits, hcurrent, hphase.later decided houtcome⟩
      · cases hstep
  | abandon call =>
      simp only [Cache.step] at hstep
      split at hstep
      · rename_i flight hfollowing
        cases hstep
        exact (hok.putFlight flight (Flight.silent_abandon _)).goto trivial
          (fun _ h => by cases h)
      · cases hstep
  | settle flight =>
      cases hstep
      exact hok.putFlight flight Flight.silent_settle
  | peek call operation credentialScope =>
      simp only [Cache.step] at hstep
      split at hstep
      · simp only [Option.ite_none_left_eq_some] at hstep
        cases hstep.2
        exact hok.peek call operation credentialScope
      · cases hstep
  | recordResponse operation responseClass credentialScope =>
      simp only [Cache.step, Option.ite_none_left_eq_some] at hstep
      cases hstep.2
      exact hok.storeEntry ⟨rfl, rfl⟩ (fun _ h => by cases h) _
  | recordEvidence evidence credentialScope =>
      simp only [Cache.step, Option.ite_none_left_eq_some] at hstep
      cases hstep.2
      exact hok.recordEvidence evidence credentialScope
  | invalidate target closed =>
      cases hstep
      exact hok.invalidate target closed

theorem Consistent.fresh (clock : ℚ) : Consistent config (Cache.fresh clock) where
  entries _ _ h := by cases h
  bounded := Nat.zero_le _
  listed _ _ h := by cases h
  published _ _ h := by cases h
  calls _ := ⟨le_rfl, trivial⟩
  leaders _ _ _ h := by cases h

theorem Consistent.of_reachable (hreach : (system config).Reachable cache) :
    Consistent config cache := by
  apply hreach.invariant
  · rintro _ ⟨clock, rfl⟩
    exact Consistent.fresh clock
  · intro source event target hok _ hstep
    exact hok.step hstep

end Cache

/-! ## The barrier -/

/-- The result a call has returned, and how many invalidations had covered its operation when
that result was decided. -/
def ResolveCall.returned (call : ResolveCall) : Option Decided :=
  match call.phase with
  | .served entry _ => some ⟨entry.payload, call.startedAt⟩
  | .ended (.ok decided) => some decided
  | _ => none

namespace Cache

/-- In every run, no entry holds what a probe came to that started before an invalidation of
its operation; no call returns it unless its result was decided before that invalidation, and
then not if the call started after it; there are at most as many entries as the limit allows;
an entry that is served is younger than its time to live; and a call gets what was made for its
own operation and credential scope. -/
theorem invalidation_is_barrier (config : CacheConfig) :
    ∀ cache, (system config).Reachable cache →
      (∀ key entry epoch, (key, entry) ∈ cache.entries → entry.payload.probe = some epoch →
        epoch = cache.epoch key.operationId) ∧
      (∀ call decided epoch, (cache.calls call).returned = some decided →
        decided.result.probe = some epoch →
          epoch = decided.decidedAt ∧ (cache.calls call).startedAt ≤ epoch) ∧
      cache.entries.length ≤ maxCacheEntries ∧
      (∀ call entry now, (cache.calls call).phase = .served entry now →
        now - entry.timestamp < config.ttlSeconds) ∧
      (∀ call decided, (cache.calls call).returned = some decided →
        decided.result.operation = (cache.calls call).operation ∧
          decided.result.credentialScope = (cache.calls call).credentialScope) := by
  intro cache hreach
  have hok := Consistent.of_reachable hreach
  have hreturned : ∀ call decided, (cache.calls call).returned = some decided →
      decided.result.Fits (config.slot (cache.calls call)).2 ∧ decided.Current ∧
        (cache.calls call).startedAt ≤ decided.decidedAt := by
    intro call decided h
    have hphase := (hok.calls call).phase
    unfold ResolveCall.returned at h
    split at h
    · rename_i entry now hserved
      cases h
      rw [hserved] at hphase
      exact ⟨hphase.2.1, hphase.2.2, le_rfl⟩
    · rename_i found hended
      cases h
      rw [hended] at hphase
      exact hphase
    · cases h
  refine ⟨?_, ?_, hok.bounded, ?_, ?_⟩
  · intro key entry epoch hmem hprobe
    exact (hok.entries key entry hmem).2 epoch hprobe
  · intro call decided epoch h hprobe
    obtain ⟨-, hcurrent, hstarted⟩ := hreturned call decided h
    have hepoch := hcurrent epoch hprobe
    exact ⟨hepoch, hepoch ▸ hstarted⟩
  · intro call entry now hserved
    have hphase := (hok.calls call).phase
    rw [hserved] at hphase
    exact hphase.1
  · intro call decided h
    exact (hreturned call decided h).1

end Cache

/-! ## A follower that wakes up late -/

/-- An operation that the deployment of the runs below is declared to support. -/
def listDatasets : OperationSpec where
  id := ⟨"ckan", "datasets", "list"⟩
  mutationClass := .read
  capabilityClass := .core

/-- A cache for one operation, with a runner for probes and a time to live of ten seconds. -/
def oneOperation : CacheConfig where
  baseline := DeclaredCapabilityProfile.baseline
    { operations := fun id => if id = listDatasets.id then some listDatasets else none
      operations_id := by
        intro id operation h
        simp only [Option.mem_def, Option.ite_none_right_eq_some, Option.some.injEq] at h
        rw [← h.2, h.1] }
  probeRunner := true
  asyncProbeRunner := true
  ttlSeconds := 10
  unicode := UnicodeData.ascii
  ttlSeconds_nonneg := by decide

/-- What the probes of the runs below come to. -/
def listingWorks : ProbeEvidence where
  operationId := listDatasets.id
  deploymentUrl := "https://data"
  credentialClassification := .anonymous
  roleClassification := .anonymous
  observedResponseClass := .success
  credentialScope := none
  credentialScope_ne := by simp

namespace Cache

/-- A call leads the probe, another follows it. The cache is invalidated after the leader has
published the flight and before the follower wakes up. -/
def lateFollower : List CacheEvent :=
  [ .check 0 .sync listDatasets.id "anonymous", .check 1 .sync listDatasets.id "anonymous"
  , .elect 0 0, .elect 1 0, .startProbe 0, .endProbe 0 (.ok listingWorks), .complete 0
  , .invalidate none fun _ => false ]

/-- Whether waking a call up returns what a probe came to that started before the last
invalidation of its operation. -/
def wakesStale (config : CacheConfig) (cache : Cache) (call : Nat) : Bool :=
  ((cache.step config (.wake call)).bind fun next => (next.calls call).returned).any fun decided =>
    (cache.calls call).returned.isNone && decided.result.probe.any fun epoch =>
      decide (epoch ≠ cache.epoch (cache.calls call).operation)

/-- A follower returns what its flight holds, without looking at what was invalidated since. -/
theorem late_follower_returns_stale :
    ¬ ∀ config cache next event call decided epoch, (system config).Reachable cache →
      cache.step config event = some next → (cache.calls call).returned = none →
        (next.calls call).returned = some decided → decided.result.probe = some epoch →
          epoch = cache.epoch (cache.calls call).operation := by
  intro hclaim
  obtain ⟨cache, hreach, htest⟩ := (system oneOperation).exists_reachable_of_run (fresh 0)
    ⟨0, rfl⟩ lateFollower (fun cache => cache.wakesStale oneOperation 1) (by decide +kernel)
  simp only [wakesStale, Option.any_eq_true, Option.bind_eq_some_iff, Bool.and_eq_true,
    Option.isNone_iff_eq_none, decide_eq_true_eq] at htest
  obtain ⟨decided, ⟨next, hstep, hreturned⟩, hbefore, epoch, hprobe, hstale⟩ := htest
  exact hstale (hclaim oneOperation cache next (.wake 1) 1 decided epoch hreach hstep hbefore
    hreturned hprobe)

/-- The barrier holds in that run: the profile was decided before the invalidation. -/
theorem barrier_of_late_follower :
    ∃ cache, (system oneOperation).Reachable cache ∧
      ∃ decided, (cache.calls 1).returned = some decided ∧ decided.result.probe = some 0 ∧
        decided.decidedAt = 0 ∧ cache.epoch listDatasets.id = 1 := by
  obtain ⟨cache, hreach, htest⟩ := (system oneOperation).exists_reachable_of_run (fresh 0)
    ⟨0, rfl⟩ (lateFollower ++ [.wake 1])
    (fun cache : Cache => (cache.calls 1).returned.any (fun decided : Decided =>
      decide (decided.result.probe = some 0)) && decide (cache.epoch listDatasets.id = 1))
    (by decide +kernel)
  simp only [Bool.and_eq_true, Option.any_eq_true, decide_eq_true_eq] at htest
  obtain ⟨⟨decided, hreturned, hprobe⟩, hepoch⟩ := htest
  have hbarrier := (invalidation_is_barrier oneOperation cache hreach).2.1 1 decided 0 hreturned
    hprobe
  exact ⟨cache, hreach, decided, hreturned, hprobe, hbarrier.1.symm, hepoch⟩

end Cache

end DataSluice.Runtime.Capability
