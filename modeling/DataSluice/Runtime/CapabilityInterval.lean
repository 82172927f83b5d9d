/-
# Probes of one key

`resolve` looks at the cache in one section and elects the leader of a flight in another, and
the second does not look at the cache again. A call that has found nothing can therefore lead
a flight after another call has stored its result, and probe again within the time to live.

That is the only way: in a run in which no call starts to lead a flight while the cache holds
a fresh entry, a probe starts only when everything stored before has reached its time to live.
-/

import DataSluice.Runtime.CapabilityBarrier
import Mathlib.Tactic.Linarith

namespace DataSluice.Runtime.Capability

open DataSluice.Lib DataSluice.Domain

namespace Cache

/-- The runs of `resolve` calls for one operation and credential scope whose probes succeed,
without an invalidation. -/
def ResolvesOne (config : CacheConfig) (operation : OperationId) (credentialScope : String) :
    CacheEvent → Prop
  | .tick _ | .elect _ _ | .startProbe _ | .complete _ | .wake _ => True
  | .check _ mode checked scope => mode = .sync ∧ checked = operation ∧ scope = credentialScope
  | .endProbe _ answer =>
      ∃ profile, config.resolveFromRunner operation credentialScope answer = .ok profile
  | _ => False

/-- A call that is about to lead a flight would find no fresh entry if it looked again. -/
def ElectsOnMiss (config : CacheConfig) (cache : Cache) : CacheEvent → Prop
  | .elect call _ => cache.flights (config.slot (cache.calls call)) = none →
      (config.freshEntry cache.entries (config.slot (cache.calls call)).2 cache.clock).1 = none
  | _ => True

/-- Everything stored has reached its time to live. -/
def AllExpired (config : CacheConfig) (cache : Cache) : Prop :=
  ∀ key storedAt, (key, storedAt) ∈ cache.stores → storedAt + config.ttlSeconds ≤ cache.clock

/-- A probe that may start now comes after everything stored has reached its time to live. -/
def ProbesSpaced (config : CacheConfig) (cache : Cache) : Prop :=
  ∀ call, (cache.step config (.startProbe call)).isSome = true →
    cache.AllExpired config

/-- What the phase of a call says about the results stored so far. -/
def PhaseSpaced (config : CacheConfig) (cache : Cache) : CallPhase → Prop
  | .leading _ => cache.AllExpired config
  | .probed _ _ answer completedAt =>
      completedAt ≤ cache.clock ∧ (∃ profile, answer = .ok profile) ∧
        ∀ key storedAt, (key, storedAt) ∈ cache.stores → storedAt ≤ completedAt
  | _ => True

/-- What holds of one call in the runs of `resolve` calls for one key. -/
structure CallSpaced (config : CacheConfig) (slot : Slot) (cache : Cache) (call : ResolveCall) :
    Prop where
  slot : call.phase = .idle ∨ config.slot call = slot
  phase : cache.PhaseSpaced config call.phase

/-- What holds in the runs of `resolve` calls for one key. -/
structure Spaced (config : CacheConfig) (slot : Slot) (cache : Cache) : Prop where
  calls : ∀ call, CallSpaced config slot cache (cache.calls call)
  live : ∀ flight, (cache.flight flight).cancelled = false
  stored : ∀ key storedAt, (key, storedAt) ∈ cache.stores → storedAt ≤ cache.clock
  covered : ∀ key storedAt, (key, storedAt) ∈ cache.stores →
    storedAt + config.ttlSeconds ≤ cache.clock ∨
      ∃ entry, TimedCache.find cache.entries slot.2 = some entry ∧ storedAt ≤ entry.timestamp

variable {config : CacheConfig} {slot : Slot} {cache next : Cache}

/-- All leaders lead the flight of the one dictionary entry, so there is one leader. -/
theorem Spaced.leader_unique (hspaced : Spaced config slot cache) (hok : Consistent config cache)
    {one two first second : Nat} (hone : (cache.calls one).phase.leads = some first)
    (htwo : (cache.calls two).phase.leads = some second) : one = two := by
  have hlisted : ∀ call flight, (cache.calls call).phase.leads = some flight →
      cache.flights slot = some flight := by
    intro call flight h
    have hfound := ((hok.calls call).leads h).listed (hspaced.live flight)
    rcases (hspaced.calls call).slot with hidle | hslot
    · rw [hidle] at h
      cases h
    · rw [← hslot]
      exact hfound
  have hsame : some first = some second := by
    calc some first
      _ = cache.flights slot := (hlisted one first hone).symm
      _ = some second := hlisted two second htwo
  cases hsame
  exact hok.leaders one two first hone htwo

/-- Time passes. -/
theorem PhaseSpaced.later {phase : CallPhase} (hphase : cache.PhaseSpaced config phase)
    (hstores : next.stores = cache.stores) (hclock : cache.clock ≤ next.clock) :
    next.PhaseSpaced config phase := by
  cases phase with
  | leading flight =>
      intro key storedAt hmem
      rw [hstores] at hmem
      exact (hphase key storedAt hmem).trans hclock
  | probed flight epoch answer completedAt =>
      obtain ⟨hcompleted, hanswer, hbefore⟩ := hphase
      refine ⟨hcompleted.trans hclock, hanswer, ?_⟩
      rw [hstores]
      exact hbefore
  | _ => exact trivial

/-- The calls after one of them has moved on while the stored results stay. -/
theorem Spaced.calls_update (hspaced : Spaced config slot cache) {call : Nat}
    {record : ResolveCall} (hcalls : next.calls = Function.update cache.calls call record)
    (hstores : next.stores = cache.stores) (hclock : next.clock = cache.clock)
    (hslot : config.slot record = slot) (hphase : cache.PhaseSpaced config record.phase)
    (other : Nat) :
    CallSpaced config slot next (next.calls other) := by
  rw [hcalls]
  by_cases hother : other = call
  · rw [hother, Function.update_self]
    exact ⟨.inr hslot, hphase.later hstores hclock.ge⟩
  · rw [Function.update_of_ne hother]
    exact ⟨(hspaced.calls other).slot, (hspaced.calls other).phase.later hstores hclock.ge⟩

theorem Spaced.tick (hspaced : Spaced config slot cache) {now : ℚ} (hnow : cache.clock ≤ now) :
    Spaced config slot { cache with clock := now } where
  calls call := ⟨(hspaced.calls call).slot, (hspaced.calls call).phase.later rfl hnow⟩
  live := hspaced.live
  stored key storedAt hmem := (hspaced.stored key storedAt hmem).trans hnow
  covered key storedAt hmem :=
    (hspaced.covered key storedAt hmem).imp_left fun h => h.trans hnow

/-- A call moves on, and nothing else changes. -/
theorem Spaced.goto (hspaced : Spaced config slot cache) {call : Nat} {phase : CallPhase}
    (hmoved : (cache.calls call).phase ≠ .idle) (hphase : cache.PhaseSpaced config phase) :
    Spaced config slot (cache.goto call phase) where
  calls := hspaced.calls_update rfl rfl rfl ((hspaced.calls call).slot.resolve_left hmoved) hphase
  live := hspaced.live
  stored := hspaced.stored
  covered := hspaced.covered

/-- A stored result that a lookup drops has reached its time to live. -/
theorem Spaced.lookup (hspaced : Spaced config slot cache) {key : CacheKey} {storedAt : ℚ}
    (hmem : (key, storedAt) ∈ cache.stores) :
    storedAt + config.ttlSeconds ≤ cache.clock ∨ ∃ entry,
      TimedCache.find (config.freshEntry cache.entries slot.2 cache.clock).2 slot.2 = some entry ∧
        storedAt ≤ entry.timestamp := by
  rcases hspaced.covered key storedAt hmem with hexpired | ⟨entry, hfind, hbefore⟩
  · exact .inl hexpired
  · rw [CacheConfig.freshEntry, TimedCache.fresh, hfind]
    simp only
    split
    · rename_i hstale
      left
      linarith
    · exact .inr ⟨entry, hfind, hbefore⟩

/-- A call that finds no fresh entry finds that everything stored has reached its time to
live. -/
theorem Spaced.allExpired (hspaced : Spaced config slot cache)
    (hmiss : (config.freshEntry cache.entries slot.2 cache.clock).1 = none) :
    cache.AllExpired config := by
  intro key storedAt hmem
  rcases hspaced.covered key storedAt hmem with hexpired | ⟨entry, hfind, hbefore⟩
  · exact hexpired
  · rcases TimedCache.fresh_eq_none hmiss with hnone | ⟨found, hfound, hstale⟩
    · rw [hnone] at hfind
      cases hfind
    · cases hfind.symm.trans hfound
      linarith

theorem Spaced.check (hspaced : Spaced config slot cache) (call : Nat) {mode : Mode}
    {operation : OperationId} {credentialScope : String}
    (hslot : slot = (mode, config.cacheKey operation credentialScope)) :
    Spaced config slot (cache.check config call mode operation credentialScope) := by
  subst hslot
  have hcovered := fun key storedAt (hmem : (key, storedAt) ∈ cache.stores) => hspaced.lookup hmem
  unfold Cache.check
  simp only
  split
  · exact ⟨hspaced.calls_update rfl rfl rfl rfl trivial, hspaced.live, hspaced.stored, hcovered⟩
  · split
    · exact ⟨hspaced.calls_update rfl rfl rfl rfl trivial, hspaced.live, hspaced.stored, hcovered⟩
    · exact ⟨hspaced.calls_update rfl rfl rfl rfl trivial, hspaced.live, hspaced.stored, hcovered⟩

/-- A call leads a new flight when it would find nothing. -/
theorem Spaced.lead (hspaced : Spaced config slot cache) {call : Nat} (loop : Nat)
    (hmoved : (cache.calls call).phase ≠ .idle) (hexpired : cache.AllExpired config) :
    Spaced config slot (cache.lead config call loop) where
  calls := hspaced.calls_update rfl rfl rfl ((hspaced.calls call).slot.resolve_left hmoved) hexpired
  live flight := by
    show (Function.update cache.flight cache.flightCount _ flight).cancelled = false
    by_cases hflight : flight = cache.flightCount
    · rw [hflight, Function.update_self, Flight.cancelled_create]
    · rw [Function.update_of_ne hflight]
      exact hspaced.live flight
  stored := hspaced.stored
  covered := hspaced.covered

/-- The one leader stores its result, which is the newest one. -/
theorem Spaced.completeLeader (hspaced : Spaced config slot cache) (hok : Consistent config cache)
    {call flight epoch : Nat} {profile : EffectiveCapabilityProfile} {completedAt : ℚ}
    (hphase : (cache.calls call).phase = .probed flight epoch (.ok profile) completedAt) :
    Spaced config slot (cache.completeLeader config call flight epoch profile completedAt) := by
  have hprobed := (hspaced.calls call).phase
  rw [hphase] at hprobed
  obtain ⟨hcompleted, -, hbefore⟩ := hprobed
  have hslot : config.slot (cache.calls call) = slot := by
    apply (hspaced.calls call).slot.resolve_left
    rw [hphase]
    simp
  have hothers : ∀ other, other ≠ call → (cache.calls other).phase.leads = none := by
    intro other hother
    cases hleads : (cache.calls other).phase.leads with
    | none => rfl
    | some led =>
        exact absurd (hspaced.leader_unique hok hleads (by rw [hphase]; rfl)) hother
  simp only [Cache.completeLeader, hspaced.live flight, Bool.false_eq_true, if_false]
  have hnewest : ∀ key storedAt,
      (key, storedAt) ∈ ((config.slot (cache.calls call)).2, completedAt) :: cache.stores →
        storedAt ≤ completedAt := by
    intro key storedAt hmem
    rcases List.mem_cons.mp hmem with hnew | hold
    · cases hnew
      exact le_rfl
    · exact hbefore key storedAt hold
  refine ⟨?_, ?_, ?_, ?_⟩
  · intro other
    show CallSpaced config slot _ (Function.update cache.calls call _ other)
    by_cases hother : other = call
    · rw [hother, Function.update_self]
      exact ⟨.inr hslot, trivial⟩
    · rw [Function.update_of_ne hother]
      apply CallSpaced.mk (hspaced.calls other).slot
      have hnone := hothers other hother
      cases hcase : (cache.calls other).phase with
      | leading led | probing led _ | probed led _ _ _ =>
          rw [hcase] at hnone
          cases hnone
      | _ => exact trivial
  · intro other
    show (Function.update cache.flight flight _ other).cancelled = false
    by_cases hother : other = flight
    · rw [hother, Function.update_self]
      exact (Flight.cancelled_publish _ _).trans (hspaced.live flight)
    · rw [Function.update_of_ne hother]
      exact hspaced.live other
  · intro key storedAt hmem
    exact (hnewest key storedAt hmem).trans hcompleted
  · intro key storedAt hmem
    have hfound : ∀ result : Result, TimedCache.find (config.storeEntry cache.entries slot.2 result
        completedAt) slot.2 = some ⟨result, completedAt⟩ := fun _ => TimedCache.find_store_self
    rw [← hslot] at hfound ⊢
    exact .inr ⟨_, hfound _, hnewest key storedAt hmem⟩

theorem Spaced.step (hspaced : Spaced config slot cache) (hok : Consistent config cache)
    {operation : OperationId} {credentialScope : String}
    (hslot : slot = (.sync, config.cacheKey operation credentialScope)) {event : CacheEvent}
    (hevent : ResolvesOne config operation credentialScope event)
    (hmiss : cache.ElectsOnMiss config event) (hstep : cache.step config event = some next) :
    Spaced config slot next := by
  cases event with
  | tick now =>
      simp only [Cache.step, Option.ite_none_right_eq_some] at hstep
      cases hstep.2
      exact hspaced.tick hstep.1
  | check call mode checked scope =>
      obtain ⟨rfl, rfl, rfl⟩ := hevent
      simp only [Cache.step] at hstep
      split at hstep
      · simp only [Option.ite_none_left_eq_some] at hstep
        cases hstep.2
        exact hspaced.check call hslot
      · cases hstep
  | elect call loop =>
      simp only [Cache.step] at hstep
      split at hstep
      · rename_i hmissed
        have hmoved : (cache.calls call).phase ≠ .idle := by
          rw [hmissed]
          simp
        split at hstep
        · cases hstep
          exact hspaced.goto hmoved trivial
        · rename_i hfree
          cases hstep
          have hnone := hmiss hfree
          rw [(hspaced.calls call).slot.resolve_left hmoved] at hnone
          exact hspaced.lead loop hmoved (hspaced.allExpired hnone)
      · cases hstep
  | startProbe call =>
      simp only [Cache.step] at hstep
      split at hstep
      · rename_i flight hleading
        cases hstep
        exact hspaced.goto (by rw [hleading]; simp) trivial
      · cases hstep
  | endProbe call answer =>
      simp only [Cache.step] at hstep
      split at hstep
      · rename_i flight epoch hprobing
        cases hstep
        have hcall := (hspaced.calls call).slot.resolve_left (by rw [hprobing]; simp)
        rw [hslot] at hcall
        simp only [CacheConfig.slot, CacheConfig.cacheKey, Prod.mk.injEq, CacheKey.mk.injEq] at hcall
        obtain ⟨-, -, -, hscope, hoperation⟩ := hcall
        apply hspaced.goto (by rw [hprobing]; simp)
        refine ⟨le_rfl, ?_, hspaced.stored⟩
        rw [hscope, hoperation]
        exact hevent
      · cases hstep
  | complete call =>
      simp only [Cache.step] at hstep
      split at hstep
      · rename_i flight epoch error completedAt hprobed
        have hphase := (hspaced.calls call).phase
        rw [hprobed] at hphase
        obtain ⟨-, ⟨profile, hprofile⟩, -⟩ := hphase
        cases hprofile
      · rename_i flight epoch profile completedAt hprobed
        cases hstep
        exact hspaced.completeLeader hok hprobed
      · cases hstep
  | wake call =>
      simp only [Cache.step] at hstep
      split at hstep
      · rename_i flight hfollowing
        simp only [Option.map_eq_some_iff] at hstep
        obtain ⟨outcome, -, rfl⟩ := hstep
        exact hspaced.goto (by rw [hfollowing]; simp) trivial
      · cases hstep
  | abandon | settle | peek | recordResponse | recordEvidence | invalidate => exact hevent.elim

theorem Spaced.fresh (config : CacheConfig) (slot : Slot) (clock : ℚ) :
    Spaced config slot (Cache.fresh clock) where
  calls _ := ⟨.inl rfl, trivial⟩
  live _ := rfl
  stored _ _ h := by cases h
  covered _ _ h := by cases h

/-- In every run of `resolve` calls for one operation and credential scope whose probes
succeed, without an invalidation, and in which no call starts to lead a flight while the cache
holds a fresh entry, a probe starts only when everything stored has reached its time to live. -/
theorem probes_spaced (config : CacheConfig) (operation : OperationId)
    (credentialScope : String) :
    ∀ cache, (system config).ReachableUnder
      (fun cache event => ResolvesOne config operation credentialScope event ∧
        cache.ElectsOnMiss config event) cache → cache.ProbesSpaced config := by
  intro cache hreach
  have hboth : Spaced config (.sync, config.cacheKey operation credentialScope) cache ∧
      Consistent config cache := by
    apply hreach.invariant
    · rintro _ ⟨clock, rfl⟩
      exact ⟨Spaced.fresh config _ clock, Consistent.fresh clock⟩
    · rintro source event target ⟨hspaced, hok⟩ ⟨hevent, hmiss⟩ hstep
      exact ⟨hspaced.step hok rfl hevent hmiss hstep, hok.step hstep⟩
  intro call hstart
  simp only [Cache.step] at hstart
  split at hstart
  · rename_i flight hleading
    have hphase := (hboth.1.calls call).phase
    rw [hleading] at hphase
    exact hphase
  · cases hstart

/-- The probes of the runs below succeed. -/
theorem listing_succeeds : ∃ profile,
    oneOperation.resolveFromRunner listDatasets.id "anonymous" (.ok listingWorks) =
      .ok profile := by
  have hsome : (oneOperation.resolveFromRunner listDatasets.id "anonymous"
      (.ok listingWorks)).toOption.isSome = true := by decide +kernel
  cases hresult : oneOperation.resolveFromRunner listDatasets.id "anonymous" (.ok listingWorks) with
  | error error =>
      rw [hresult] at hsome
      cases hsome
  | ok profile => exact ⟨profile, rfl⟩

/-- One call probes and stores its result; ten seconds later, with a time to live of ten
seconds, the next one probes again. -/
theorem probes_spaced_of_two_intervals :
    ∃ cache, (system oneOperation).ReachableUnder
      (fun cache event => ResolvesOne oneOperation listDatasets.id "anonymous" event ∧
        cache.ElectsOnMiss oneOperation event) cache ∧
      (cache.step oneOperation (.startProbe 1)).isSome = true ∧ cache.stores ≠ [] ∧
      cache.ProbesSpaced oneOperation := by
  have hfresh : (system oneOperation).ReachableUnder
      (fun cache event => ResolvesOne oneOperation listDatasets.id "anonymous" event ∧
        cache.ElectsOnMiss oneOperation event) (Cache.fresh 0) := .start ⟨0, rfl⟩
  have hchecked := hfresh.take (.check 0 .sync listDatasets.id "anonymous")
    ⟨⟨rfl, rfl, rfl⟩, trivial⟩ (by decide +kernel)
  have hleading := hchecked.take (.elect 0 0) ⟨trivial, fun _ => by decide +kernel⟩
    (by decide +kernel)
  have hprobing := hleading.take (.startProbe 0) ⟨trivial, trivial⟩ (by decide +kernel)
  have hprobed := hprobing.take (.endProbe 0 (.ok listingWorks)) ⟨listing_succeeds, trivial⟩
    (by decide +kernel)
  have hstored := hprobed.take (.complete 0) ⟨trivial, trivial⟩ (by decide +kernel)
  have hlater := hstored.take (.tick 10) ⟨trivial, trivial⟩ (by decide +kernel)
  have hagain := hlater.take (.check 1 .sync listDatasets.id "anonymous")
    ⟨⟨rfl, rfl, rfl⟩, trivial⟩ (by decide +kernel)
  have hsecond := hagain.take (.elect 1 0) ⟨trivial, fun _ => by decide +kernel⟩
    (by decide +kernel)
  have hspaced := probes_spaced oneOperation listDatasets.id "anonymous" _ hsecond
  exact ⟨_, hsecond, by decide +kernel, by decide +kernel, hspaced⟩

/-- Two calls find nothing; one of them probes and stores its result, and a second later the
other one leads a flight of its own. -/
def secondLeader : List CacheEvent :=
  [ .check 0 .sync listDatasets.id "anonymous", .check 1 .sync listDatasets.id "anonymous"
  , .elect 1 0, .startProbe 1, .endProbe 1 (.ok listingWorks), .complete 1, .tick 1
  , .elect 0 0 ]

/-- The election does not look at the cache again. -/
theorem second_leader_probes_again :
    ¬ ∀ config operation credentialScope cache, (system config).ReachableUnder
      (fun _ event => ResolvesOne config operation credentialScope event) cache →
        cache.ProbesSpaced config := by
  intro hclaim
  have hguard : ∀ event ∈ secondLeader, ∀ _cache : Cache,
      ResolvesOne oneOperation listDatasets.id "anonymous" event := by
    intro event hevent _
    simp only [secondLeader, List.mem_cons, List.not_mem_nil, or_false] at hevent
    rcases hevent with rfl | rfl | rfl | rfl | rfl | rfl | rfl | rfl
    · exact ⟨rfl, rfl, rfl⟩
    · exact ⟨rfl, rfl, rfl⟩
    · exact trivial
    · exact trivial
    · exact listing_succeeds
    · exact trivial
    · exact trivial
    · exact trivial
  obtain ⟨cache, hreach, htest⟩ := (system oneOperation).exists_reachableUnder_of_run
    (fun _ event => ResolvesOne oneOperation listDatasets.id "anonymous" event) (Cache.fresh 0)
    ⟨0, rfl⟩ secondLeader hguard
    (fun cache => (cache.step oneOperation (.startProbe 0)).isSome &&
      cache.stores.any fun store => decide (cache.clock < store.2 + oneOperation.ttlSeconds))
    (by decide +kernel)
  simp only [Bool.and_eq_true, List.any_eq_true, decide_eq_true_eq] at htest
  obtain ⟨hstart, ⟨key, storedAt⟩, hmem, hyoung⟩ := htest
  have hspaced := hclaim oneOperation listDatasets.id "anonymous" cache hreach 0 hstart key
    storedAt hmem
  exact absurd hspaced (not_le.mpr hyoung)

end Cache

end DataSluice.Runtime.Capability
