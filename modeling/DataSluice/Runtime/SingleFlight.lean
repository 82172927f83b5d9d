/-
# One refresh in flight

Exclusion between refreshes rests on two locks. The re-entrant lock keeps other
threads out but lets every task of its own thread in; the `asyncio.Lock` keeps
the tasks of one thread apart, but only while they share one lock object.

The invariant is kept call by call. `CallOk` says what the shared fields must
show for one call, `Frame` says what a step of another call may not disturb, and
every step of the provider frames the calls it does not belong to.
-/

import DataSluice.Runtime.Oauth

namespace DataSluice.Runtime.Provider

open DataSluice.Lib

/-! ## What the shared fields say about one call -/

/-- The shared fields agree with one call's phase. -/
structure CallOk (config : ProviderConfig) (provider : Provider) (call : Nat) : Prop where
  busy : (provider.calls call).loop = none → (provider.calls call).phase.active = true →
    provider.busy (provider.calls call).thread = some call
  entries : call ∈ provider.rlockEntries ↔ (provider.calls call).phase.inBlock = true
  owner : (provider.calls call).phase.inBlock = true →
    provider.rlockOwner = some (provider.calls call).thread
  holder : (provider.calls call).loop.isSome = true →
    (provider.calls call).phase.holdsLock = true →
      ∃ lock, (provider.calls call).lock = some lock ∧ provider.lockHolder lock = some call
  mode : (provider.calls call).phase.refreshes = true →
    config.asyncTransport = (provider.calls call).loop.isSome
  task : (provider.calls call).phase.asyncOnly = true → (provider.calls call).loop.isSome = true

/-- A step of `call` that leaves every other call's record and locks alone. -/
structure Frame (provider next : Provider) (call : Nat) : Prop where
  calls : ∀ other, other ≠ call → next.calls other = provider.calls other
  busy : ∀ other, other ≠ call → ∀ thread, provider.busy thread = some other →
    next.busy thread = some other
  entries : ∀ other, other ≠ call →
    (other ∈ next.rlockEntries ↔ other ∈ provider.rlockEntries)
  owner : ∀ other, other ≠ call → other ∈ provider.rlockEntries →
    provider.rlockOwner = some (provider.calls other).thread →
      next.rlockOwner = provider.rlockOwner
  holder : ∀ other, other ≠ call → ∀ lock, provider.lockHolder lock = some other →
    next.lockHolder lock = some other

theorem CallOk.of_frame {config : ProviderConfig} {provider next : Provider} {call other : Nat}
    (hframe : Frame provider next call) (hne : other ≠ call)
    (hok : CallOk config provider other) : CallOk config next other := by
  have hcall := hframe.calls other hne
  refine ⟨?_, ?_, ?_, ?_, ?_, ?_⟩
  · rw [hcall]
    exact fun hsync hactive => hframe.busy other hne _ (hok.busy hsync hactive)
  · rw [hcall, hframe.entries other hne]
    exact hok.entries
  · rw [hcall]
    intro hblock
    rw [hframe.owner other hne (hok.entries.mpr hblock) (hok.owner hblock)]
    exact hok.owner hblock
  · rw [hcall]
    intro hasync hholds
    obtain ⟨lock, hlock, hholder⟩ := hok.holder hasync hholds
    exact ⟨lock, hlock, hframe.holder other hne lock hholder⟩
  · rw [hcall]
    exact hok.mode
  · rw [hcall]
    exact hok.task

/-- A step that changes nothing but the record of its own call, the stored lock
and loop, or the credential. -/
theorem Frame.of_calls {provider next : Provider} {call : Nat}
    (hcalls : ∀ other, other ≠ call → next.calls other = provider.calls other)
    (hbusy : next.busy = provider.busy) (hentries : next.rlockEntries = provider.rlockEntries)
    (howner : next.rlockOwner = provider.rlockOwner)
    (hholder : next.lockHolder = provider.lockHolder) : Frame provider next call where
  calls := hcalls
  busy _ _ _ h := by rw [hbusy]; exact h
  entries _ _ := by rw [hentries]
  owner _ _ _ _ := howner
  holder _ _ _ h := by rw [hholder]; exact h

theorem frame_goto (provider : Provider) (call : Nat) (phase : ResolvePhase) :
    Frame provider (provider.goto call phase) call :=
  .of_calls (fun _ hne => Function.update_of_ne hne _ _) rfl rfl rfl rfl

theorem frame_handLock (provider : Provider) (call lock : Nat) (phase : ResolvePhase) :
    Frame provider (provider.handLock call lock phase) call :=
  .of_calls (fun _ hne => Function.update_of_ne hne _ _) rfl rfl rfl rfl

theorem frame_start (provider : Provider) (call thread : Nat) (loop : Option Nat)
    (phase : ResolvePhase) : Frame provider (provider.start call thread loop phase) call :=
  .of_calls (fun _ hne => Function.update_of_ne hne _ _) rfl rfl rfl rfl

theorem frame_finish (provider : Provider) (call : Nat) :
    Frame provider (provider.finish call) call :=
  .of_calls (fun _ hne => Function.update_of_ne hne _ _) rfl rfl rfl rfl

/-- Entering the block keeps the owner that every call already inside relies on. -/
theorem frame_enterBlock {provider : Provider} {call : Nat}
    (hfree : provider.rlockOwner = none ∨
      provider.rlockOwner = some (provider.calls call).thread) :
    Frame provider (provider.enterBlock call) call where
  calls _ hne := Function.update_of_ne hne _ _
  busy _ _ _ h := h
  entries other hne := by simp [enterBlock, hne]
  owner other _ _ hown := by
    rcases hfree with hfree | hfree
    · rw [hfree] at hown
      cases hown
    · exact hfree.symm
  holder _ _ _ h := h

/-- Leaving the block frees the lock only when no other call is inside. -/
theorem frame_exitBlock (provider : Provider) (call : Nat) :
    Frame provider (provider.exitBlock call) call where
  calls _ _ := rfl
  busy _ _ _ h := h
  entries other hne := by simp [exitBlock, hne]
  owner other hne hmem _ := by
    have hinside : other ∈ provider.rlockEntries.erase call := Finset.mem_erase.mpr ⟨hne, hmem⟩
    simp only [exitBlock]
    rw [if_neg]
    intro hempty
    rw [hempty] at hinside
    exact absurd hinside (Finset.notMem_empty _)
  holder _ _ _ h := h

theorem Frame.trans {provider middle next : Provider} {call : Nat}
    (hfirst : Frame provider middle call) (hsecond : Frame middle next call) :
    Frame provider next call where
  calls other hne := (hsecond.calls other hne).trans (hfirst.calls other hne)
  busy other hne thread h := hsecond.busy other hne thread (hfirst.busy other hne thread h)
  entries other hne := (hsecond.entries other hne).trans (hfirst.entries other hne)
  owner other hne hmem hown := by
    have howner := hfirst.owner other hne hmem hown
    refine (hsecond.owner other hne ((hfirst.entries other hne).mpr hmem) ?_).trans howner
    rw [howner, hfirst.calls other hne]
    exact hown
  holder other hne lock h := hsecond.holder other hne lock (hfirst.holder other hne lock h)

/-! ## Every step frames the other calls -/

theorem frame_step {config : ProviderConfig} {provider next : Provider} {event : ProviderEvent}
    (hok : ∀ call, CallOk config provider call)
    (hstep : provider.step config event = some next) : Frame provider next event.call := by
  cases event with
  | resolve call thread =>
      simp only [step, Option.ite_none_right_eq_some] at hstep
      obtain ⟨⟨-, hfree⟩, hnext⟩ := hstep
      cases hnext
      refine ⟨(frame_start _ _ _ _ _).calls, ?_, fun _ _ => Iff.rfl, fun _ _ _ _ => rfl,
        fun _ _ _ h => h⟩
      intro other _ held hheld
      by_cases hthread : held = thread
      · rw [hthread, hfree] at hheld
        cases hheld
      · simpa [Function.update_of_ne hthread] using hheld
  | resolveAsync call thread loop =>
      simp only [step, Option.ite_none_right_eq_some] at hstep
      cases hstep.2
      exact frame_start _ _ _ _ _
  | look call =>
      simp only [step, Option.ite_none_right_eq_some] at hstep
      cases hstep.2
      exact frame_goto _ _ _
  | compare call =>
      simp only [step] at hstep
      split at hstep
      · cases hstep
        exact frame_goto _ _ _
      · split at hstep
        · cases hstep
          exact frame_handLock _ _ _ _
        · cases hstep
          exact frame_goto _ _ _
      · cases hstep
  | storeLock call =>
      simp only [step, Option.ite_none_right_eq_some] at hstep
      cases hstep.2
      exact .of_calls (frame_handLock _ _ _ _).calls rfl rfl rfl rfl
  | storeLoop call =>
      simp only [step, Option.ite_none_right_eq_some] at hstep
      cases hstep.2
      exact .of_calls (frame_goto _ _ _).calls rfl rfl rfl rfl
  | acquire call =>
      simp only [step] at hstep
      split at hstep
      · rename_i lock _ _
        simp only [Option.ite_none_right_eq_some] at hstep
        obtain ⟨hfree, hnext⟩ := hstep
        cases hnext
        refine ⟨(frame_goto _ _ _).calls, fun _ _ _ h => h, fun _ _ => Iff.rfl,
          fun _ _ _ _ => rfl, ?_⟩
        intro other _ held hheld
        by_cases hlock : held = lock
        · rw [hlock, hfree] at hheld
          cases hheld
        · simpa [Function.update_of_ne hlock] using hheld
      · cases hstep
  | abandon call =>
      simp only [step, Option.ite_none_right_eq_some] at hstep
      cases hstep.2
      exact frame_finish _ _
  | enter call =>
      simp only [step, Option.ite_none_right_eq_some] at hstep
      obtain ⟨⟨-, hfree⟩, hnext⟩ := hstep
      cases hnext
      exact frame_enterBlock hfree
  | check call now =>
      simp only [step, Option.ite_none_right_eq_some] at hstep
      obtain ⟨-, hnext⟩ := hstep
      split at hnext
      all_goals cases hnext; exact frame_goto _ _ _
  | refuse call =>
      simp only [step, Option.ite_none_right_eq_some] at hstep
      cases hstep.2
      exact frame_goto _ _ _
  | request call =>
      simp only [step, Option.ite_none_right_eq_some] at hstep
      cases hstep.2
      exact frame_goto _ _ _
  | respond call response =>
      simp only [step] at hstep
      split at hstep
      · cases hstep
        exact .of_calls (frame_goto _ _ _).calls rfl rfl rfl rfl
      · cases hstep
        exact frame_goto _ _ _
      · cases hstep
  | exit call =>
      simp only [step, Option.ite_none_right_eq_some] at hstep
      obtain ⟨hphase, hnext⟩ := hstep
      split at hnext
      · cases hnext
        exact (frame_exitBlock _ _).trans (frame_goto _ _ _)
      · rename_i hsync
        cases hnext
        have hframe := (frame_exitBlock provider call).trans (frame_finish _ call)
        refine ⟨hframe.calls, ?_, hframe.entries, hframe.owner, hframe.holder⟩
        intro other hne thread hbusy
        have hthread : thread ≠ (provider.calls call).thread := by
          intro h
          have hself := (hok call).busy (by simpa using hsync) (by rw [hphase]; rfl)
          rw [h, hself] at hbusy
          exact hne (Option.some.inj hbusy).symm
        simpa [Function.update_of_ne hthread] using hbusy
  | release call =>
      simp only [step] at hstep
      split at hstep
      · rename_i lock hphase hlock
        cases hstep
        refine ⟨(frame_finish _ _).calls, fun _ _ _ h => h, fun _ _ => Iff.rfl,
          fun _ _ _ _ => rfl, ?_⟩
        intro other hne held hheld
        have hother : held ≠ lock := by
          intro h
          obtain ⟨mine, hmine, hholder⟩ := (hok call).holder
            ((hok call).task (by rw [hphase]; rfl)) (by rw [hphase]; rfl)
          cases hmine.symm.trans hlock
          rw [h, hholder] at hheld
          exact hne (Option.some.inj hheld).symm
        simpa [Function.update_of_ne hother] using hheld
      · cases hstep

/-! ## Every step keeps its own call consistent -/

/-- A move between two phases that agree on what is held. -/
theorem CallOk.goto {config : ProviderConfig} {provider : Provider} {call : Nat}
    {source : ResolvePhase} (hok : CallOk config provider call)
    (hphase : (provider.calls call).phase = source) (target : ResolvePhase)
    (hactive : source.active = true) (hblock : target.inBlock = source.inBlock)
    (hholds : target.holdsLock = source.holdsLock)
    (hmode : target.refreshes = true → config.asyncTransport = (provider.calls call).loop.isSome)
    (htask : target.asyncOnly = true → source.asyncOnly = true) :
    CallOk config (provider.goto call target) call := by
  have hself : (provider.goto call target).calls call =
      { provider.calls call with phase := target } := Function.update_self _ _ _
  subst hphase
  refine ⟨?_, ?_, ?_, ?_, ?_, ?_⟩
  · rw [hself]
    exact fun hsync _ => hok.busy hsync hactive
  · rw [hself, hblock]
    exact hok.entries
  · rw [hself, hblock]
    exact hok.owner
  · rw [hself, hholds]
    exact hok.holder
  · rw [hself]
    exact hmode
  · rw [hself]
    exact fun htarget => hok.task (htask htarget)

/-- A call that has just been given a record outside the block, with no lock. -/
theorem CallOk.of_outside {config : ProviderConfig} {provider : Provider} {call : Nat}
    (hentries : call ∉ provider.rlockEntries)
    (hbusy : (provider.calls call).loop = none → (provider.calls call).phase.active = true →
      provider.busy (provider.calls call).thread = some call)
    (hblock : (provider.calls call).phase.inBlock = false)
    (hholder : (provider.calls call).loop.isSome = true →
      (provider.calls call).phase.holdsLock = true →
        ∃ lock, (provider.calls call).lock = some lock ∧ provider.lockHolder lock = some call)
    (hrefreshes : (provider.calls call).phase.refreshes = false)
    (htask : (provider.calls call).phase.asyncOnly = true →
      (provider.calls call).loop.isSome = true) : CallOk config provider call where
  busy := hbusy
  entries := by simp [hentries, hblock]
  owner := by simp [hblock]
  holder := hholder
  mode := by simp [hrefreshes]
  task := htask

theorem notMem_entries {config : ProviderConfig} {provider : Provider} {call : Nat}
    {source : ResolvePhase} (hok : CallOk config provider call)
    (hphase : (provider.calls call).phase = source) (hblock : source.inBlock = false) :
    call ∉ provider.rlockEntries := by
  intro hmem
  rw [← hphase, hok.entries.mp hmem] at hblock
  cases hblock

theorem callOk_step_self {config : ProviderConfig} {provider next : Provider}
    {event : ProviderEvent} (hok : CallOk config provider event.call)
    (hstep : provider.step config event = some next) : CallOk config next event.call := by
  cases event with
  | resolve call thread =>
      simp only [step, Option.ite_none_right_eq_some] at hstep
      obtain ⟨⟨hphase, -⟩, hnext⟩ := hstep
      have hout := notMem_entries hok hphase rfl
      cases hnext
      refine .of_outside hout ?_ ?_ ?_ ?_ ?_
      all_goals simp [ProviderEvent.call, start, ResolvePhase.inBlock, ResolvePhase.refreshes,
        ResolvePhase.asyncOnly]
  | resolveAsync call thread loop =>
      simp only [step, Option.ite_none_right_eq_some] at hstep
      obtain ⟨hphase, hnext⟩ := hstep
      have hout := notMem_entries hok hphase rfl
      cases hnext
      refine .of_outside hout ?_ ?_ ?_ ?_ ?_
      all_goals simp [ProviderEvent.call, start, ResolvePhase.inBlock, ResolvePhase.holdsLock,
        ResolvePhase.refreshes]
  | look call =>
      simp only [step, Option.ite_none_right_eq_some] at hstep
      obtain ⟨hphase, hnext⟩ := hstep
      cases hnext
      exact hok.goto hphase _ rfl rfl rfl (fun h => by cases h) (fun _ => rfl)
  | compare call =>
      simp only [step] at hstep
      split at hstep
      · rename_i hphase
        cases hstep
        exact hok.goto hphase _ rfl rfl rfl (fun h => by cases h) (fun _ => rfl)
      · rename_i lock hphase
        have hout := notMem_entries hok hphase rfl
        have htask := hok.task (by rw [ProviderEvent.call, hphase]; rfl)
        split at hstep
        · cases hstep
          refine .of_outside hout ?_ ?_ ?_ ?_ ?_
          all_goals simp_all [ProviderEvent.call, handLock, ResolvePhase.inBlock,
            ResolvePhase.holdsLock, ResolvePhase.refreshes, Option.isSome_iff_ne_none]
        · cases hstep
          exact hok.goto hphase _ rfl rfl rfl (fun h => by cases h) (fun _ => rfl)
      · cases hstep
  | storeLock call =>
      simp only [step, Option.ite_none_right_eq_some] at hstep
      obtain ⟨hphase, hnext⟩ := hstep
      have hout := notMem_entries hok hphase rfl
      have htask := hok.task (by rw [ProviderEvent.call, hphase]; rfl)
      cases hnext
      refine .of_outside hout ?_ ?_ ?_ ?_ ?_
      all_goals simp_all [ProviderEvent.call, handLock, ResolvePhase.inBlock,
        ResolvePhase.holdsLock, ResolvePhase.refreshes, Option.isSome_iff_ne_none]
  | storeLoop call =>
      simp only [step, Option.ite_none_right_eq_some] at hstep
      obtain ⟨hphase, hnext⟩ := hstep
      cases hnext
      have hmoved := hok.goto hphase .waiting rfl rfl rfl (fun h => by cases h) (fun _ => rfl)
      exact ⟨hmoved.busy, hmoved.entries, hmoved.owner, hmoved.holder, hmoved.mode, hmoved.task⟩
  | acquire call =>
      simp only [step] at hstep
      split at hstep
      · rename_i lock hphase hlock
        simp only [Option.ite_none_right_eq_some] at hstep
        obtain ⟨-, hnext⟩ := hstep
        have hout := notMem_entries hok hphase rfl
        have htask := hok.task (by rw [ProviderEvent.call, hphase]; rfl)
        cases hnext
        refine .of_outside hout ?_ ?_ ?_ ?_ ?_
        all_goals simp_all [ProviderEvent.call, Provider.goto, ResolvePhase.inBlock,
          ResolvePhase.asyncOnly, ResolvePhase.refreshes, Option.isSome_iff_ne_none]
      · cases hstep
  | abandon call =>
      simp only [step, Option.ite_none_right_eq_some] at hstep
      obtain ⟨hphase, hnext⟩ := hstep
      have hout := notMem_entries hok hphase rfl
      cases hnext
      refine .of_outside hout ?_ ?_ ?_ ?_ ?_
      all_goals simp [ProviderEvent.call, finish, ResolvePhase.inBlock, ResolvePhase.holdsLock,
        ResolvePhase.active, ResolvePhase.refreshes, ResolvePhase.asyncOnly]
  | enter call =>
      simp only [step, Option.ite_none_right_eq_some] at hstep
      obtain ⟨⟨hphase, -⟩, hnext⟩ := hstep
      cases hnext
      have hself : (provider.enterBlock call).calls call =
          { provider.calls call with phase := .inside } := Function.update_self _ _ _
      simp only [ProviderEvent.call] at hok ⊢
      refine ⟨?_, ?_, ?_, ?_, ?_, ?_⟩
      · rw [hself]
        exact fun hsync _ => hok.busy hsync (by rw [hphase]; rfl)
      · rw [hself]
        simp [enterBlock, ResolvePhase.inBlock]
      · rw [hself]
        exact fun _ => rfl
      · rw [hself]
        exact fun hasync _ => hok.holder hasync (by rw [hphase]; rfl)
      · rw [hself]
        exact fun h => by cases h
      · rw [hself]
        exact fun h => by cases h
  | check call now =>
      simp only [step, Option.ite_none_right_eq_some] at hstep
      obtain ⟨hphase, hnext⟩ := hstep
      split at hnext
      · rename_i hneeds
        cases hnext
        exact hok.goto hphase _ rfl rfl rfl (fun _ => hneeds.2) (fun h => by cases h)
      · cases hnext
        exact hok.goto hphase _ rfl rfl rfl (fun h => by cases h) (fun h => by cases h)
  | refuse call =>
      simp only [step, Option.ite_none_right_eq_some] at hstep
      obtain ⟨hphase, hnext⟩ := hstep
      cases hnext
      exact hok.goto hphase _ rfl rfl rfl (fun h => by cases h) (fun h => by cases h)
  | request call =>
      simp only [step, Option.ite_none_right_eq_some] at hstep
      obtain ⟨hphase, hnext⟩ := hstep
      cases hnext
      exact hok.goto hphase _ rfl rfl rfl (fun _ => hok.mode (by rw [ProviderEvent.call, hphase]; rfl))
        (fun h => by cases h)
  | respond call response =>
      simp only [step] at hstep
      split at hstep
      · rename_i hphase
        cases hstep
        have hmoved := hok.goto hphase .leaving rfl rfl rfl (fun h => by cases h)
          (fun h => by cases h)
        exact ⟨hmoved.busy, hmoved.entries, hmoved.owner, hmoved.holder, hmoved.mode,
          hmoved.task⟩
      · rename_i hphase
        cases hstep
        exact hok.goto hphase _ rfl rfl rfl (fun h => by cases h) (fun h => by cases h)
      · cases hstep
  | exit call =>
      simp only [step, Option.ite_none_right_eq_some] at hstep
      obtain ⟨hphase, hnext⟩ := hstep
      have hholder := hok.holder
      simp only [ProviderEvent.call] at hok hholder ⊢
      have hout : call ∉ (provider.exitBlock call).rlockEntries := by simp [exitBlock]
      split at hnext
      · rename_i hasync
        cases hnext
        refine .of_outside hout ?_ ?_ ?_ ?_ ?_
        all_goals simp_all [Provider.goto, exitBlock, ResolvePhase.inBlock, ResolvePhase.holdsLock,
          ResolvePhase.refreshes, Option.isSome_iff_ne_none]
      · cases hnext
        refine .of_outside hout ?_ ?_ ?_ ?_ ?_
        all_goals simp [finish, ResolvePhase.inBlock, ResolvePhase.holdsLock,
          ResolvePhase.active, ResolvePhase.refreshes, ResolvePhase.asyncOnly]
  | release call =>
      simp only [step] at hstep
      split at hstep
      · rename_i lock hphase hlock
        have hout := notMem_entries hok hphase rfl
        cases hstep
        refine .of_outside hout ?_ ?_ ?_ ?_ ?_
        all_goals simp [ProviderEvent.call, finish, ResolvePhase.inBlock, ResolvePhase.holdsLock,
          ResolvePhase.active, ResolvePhase.refreshes, ResolvePhase.asyncOnly]
      · cases hstep

theorem callOk_step {config : ProviderConfig} {provider next : Provider} {event : ProviderEvent}
    (hok : ∀ call, CallOk config provider call)
    (hstep : provider.step config event = some next) (call : Nat) : CallOk config next call := by
  by_cases hcall : call = event.call
  · rw [hcall]
    exact callOk_step_self (hok event.call) hstep
  · exact (hok call).of_frame (frame_step hok hstep) hcall

/-! ## One lock object per thread -/

/-- No thread has two `asyncio.Lock` objects in use. -/
def LocksShared (provider : Provider) : Prop :=
  ∀ one two lock other, (provider.calls one).thread = (provider.calls two).thread →
    (provider.calls one).lock = some lock → (provider.calls two).lock = some other → lock = other

/-- A call of an asynchronous transport is not given a lock object while another
unfinished call of the same thread has a different one: a lock is not re-created
under such a call, and the lock read back is the one that call has. -/
def SharesLock (config : ProviderConfig) (provider : Provider) : ProviderEvent → Prop
  | .compare call =>
      config.asyncTransport = true → ∀ lock, (provider.calls call).phase = .looked (some lock) →
        provider.asyncLockLoop = (provider.calls call).loop →
          ∀ other held, other ≠ call →
            (provider.calls other).thread = (provider.calls call).thread →
              (provider.calls other).lock = some held → held = lock
  | .storeLock call =>
      config.asyncTransport = true → ∀ other, other ≠ call →
        (provider.calls other).thread = (provider.calls call).thread →
          (provider.calls other).lock = none
  | _ => True

/-- What a step can do to the lock its own call has: nothing, drop it, or take
one that every other call of the thread agrees on. -/
theorem lock_step_self {config : ProviderConfig} {provider next : Provider}
    {event : ProviderEvent} (hasync : config.asyncTransport = true)
    (hshares : provider.SharesLock config event)
    (hstep : provider.step config event = some next) :
    (next.calls event.call).lock = none ∨
      (next.calls event.call).thread = (provider.calls event.call).thread ∧
        ((next.calls event.call).lock = (provider.calls event.call).lock ∨
          ∃ lock, (next.calls event.call).lock = some lock ∧
            ∀ other held, other ≠ event.call →
              (provider.calls other).thread = (provider.calls event.call).thread →
                (provider.calls other).lock = some held → held = lock) := by
  cases event with
  | compare call =>
      simp only [step] at hstep
      split at hstep
      · cases hstep
        simp [ProviderEvent.call, Provider.goto]
      · rename_i lock hphase
        split at hstep
        · rename_i hloop
          cases hstep
          right
          refine ⟨by simp [ProviderEvent.call, handLock], .inr ⟨lock, ?_, ?_⟩⟩
          · simp [ProviderEvent.call, handLock]
          · exact hshares hasync lock hphase hloop
        · cases hstep
          simp [ProviderEvent.call, Provider.goto]
      · cases hstep
  | storeLock call =>
      simp only [step, Option.ite_none_right_eq_some] at hstep
      cases hstep.2
      right
      refine ⟨by simp [ProviderEvent.call, handLock], .inr ⟨provider.lockCount, ?_, ?_⟩⟩
      · simp [ProviderEvent.call, handLock]
      · intro other held hother hthread hheld
        rw [hshares hasync other hother hthread] at hheld
        cases hheld
  | resolve | resolveAsync | look | storeLoop | abandon | enter | refuse | request =>
      simp only [step, Option.ite_none_right_eq_some] at hstep
      cases hstep.2
      simp [ProviderEvent.call, start, Provider.goto, finish, enterBlock]
  | check | exit =>
      simp only [step, Option.ite_none_right_eq_some] at hstep
      obtain ⟨-, hnext⟩ := hstep
      split at hnext
      all_goals
        cases hnext
        simp [ProviderEvent.call, Provider.goto, finish, exitBlock]
  | acquire | respond | release =>
      simp only [step] at hstep
      split at hstep
      all_goals simp only [Option.ite_none_right_eq_some, reduceCtorEq, Option.some.injEq] at hstep
      all_goals
        first
        | subst hstep
        | obtain ⟨-, rfl⟩ := hstep
        simp [ProviderEvent.call, Provider.goto, finish]

theorem locksShared_step {config : ProviderConfig} {provider next : Provider}
    {event : ProviderEvent} (hasync : config.asyncTransport = true)
    (hok : ∀ call, CallOk config provider call) (hshared : provider.LocksShared)
    (hshares : provider.SharesLock config event)
    (hstep : provider.step config event = some next) : next.LocksShared := by
  have hcalls := (frame_step hok hstep).calls
  have hself : ∀ other lock held, other ≠ event.call →
      (next.calls other).thread = (next.calls event.call).thread →
        (next.calls event.call).lock = some lock → (next.calls other).lock = some held →
          held = lock := by
    intro other lock held hne hthread hlock hheld
    rw [hcalls other hne] at hthread hheld
    rcases lock_step_self hasync hshares hstep with hnone | ⟨hsame, hkept | ⟨given, hgiven, hall⟩⟩
    · rw [hnone] at hlock
      cases hlock
    · exact hshared other event.call held lock (hthread.trans hsame) hheld (hkept ▸ hlock)
    · cases hgiven.symm.trans hlock
      exact hall other held hne (hthread.trans hsame) hheld
  intro one two lock other hthread hlock hother
  by_cases hone : one = event.call
  · by_cases htwo : two = event.call
    · rw [hone, ← htwo, hother] at hlock
      exact (Option.some.inj hlock).symm
    · subst hone
      exact (hself two lock other htwo hthread.symm hlock hother).symm
  · by_cases htwo : two = event.call
    · subst htwo
      exact hself one other lock hone hthread hother hlock
    · rw [hcalls one hone] at hthread hlock
      rw [hcalls two htwo] at hthread hother
      exact hshared one two lock other hthread hlock hother

/-! ## One refresh, with the stored token -/

theorem refreshing_unique {config : ProviderConfig} {provider : Provider} {one two : Nat}
    (hok : ∀ call, CallOk config provider call)
    (hshared : config.asyncTransport = true → provider.LocksShared)
    (hone : (provider.calls one).phase.refreshes = true)
    (htwo : (provider.calls two).phase.refreshes = true) : one = two := by
  have hblock : ∀ phase : ResolvePhase, phase.refreshes = true →
      phase.inBlock = true ∧ phase.holdsLock = true ∧ phase.active = true := by
    intro phase hphase
    cases phase with
    | preparing | refreshing => exact ⟨rfl, rfl, rfl⟩
    | _ => cases hphase
  obtain ⟨hinOne, hholdsOne, hactiveOne⟩ := hblock _ hone
  obtain ⟨hinTwo, hholdsTwo, hactiveTwo⟩ := hblock _ htwo
  have hthread : (provider.calls one).thread = (provider.calls two).thread :=
    Option.some.inj (((hok one).owner hinOne).symm.trans ((hok two).owner hinTwo))
  have hmodeOne := (hok one).mode hone
  have hmodeTwo := (hok two).mode htwo
  cases htransport : config.asyncTransport with
  | true =>
      rw [htransport] at hmodeOne hmodeTwo
      obtain ⟨lock, hlock, hholder⟩ := (hok one).holder hmodeOne.symm hholdsOne
      obtain ⟨other, hother, hholderTwo⟩ := (hok two).holder hmodeTwo.symm hholdsTwo
      have hsame := hshared htransport one two lock other hthread hlock hother
      rw [← hsame, hholder] at hholderTwo
      exact Option.some.inj hholderTwo
  | false =>
      rw [htransport] at hmodeOne hmodeTwo
      have hbusyOne := (hok one).busy (by simpa using hmodeOne.symm) hactiveOne
      have hbusyTwo := (hok two).busy (by simpa using hmodeTwo.symm) hactiveTwo
      rw [hthread, hbusyTwo] at hbusyOne
      exact (Option.some.inj hbusyOne).symm

/-- A request is built from the credential stored at that moment. -/
theorem token_step_self {config : ProviderConfig} {provider next : Provider}
    {event : ProviderEvent} {token : String}
    (hstep : provider.step config event = some next)
    (hphase : (next.calls event.call).phase = .refreshing token) :
    token = next.credential.refreshToken := by
  cases event with
  | request call =>
      simp only [step, Option.ite_none_right_eq_some] at hstep
      cases hstep.2
      simpa [ProviderEvent.call, Provider.goto, eq_comm] using hphase
  | resolve | resolveAsync | look | storeLock | storeLoop | abandon | enter | refuse =>
      simp only [step, Option.ite_none_right_eq_some] at hstep
      cases hstep.2
      simp [ProviderEvent.call, start, Provider.goto, handLock, finish, enterBlock] at hphase
  | check | exit =>
      simp only [step, Option.ite_none_right_eq_some] at hstep
      obtain ⟨-, hnext⟩ := hstep
      split at hnext
      all_goals
        cases hnext
        simp [ProviderEvent.call, Provider.goto, finish] at hphase
  | compare call =>
      simp only [step] at hstep
      split at hstep
      · cases hstep
        simp [ProviderEvent.call, Provider.goto] at hphase
      · split at hstep
        all_goals
          cases hstep
          simp [ProviderEvent.call, Provider.goto, handLock] at hphase
      · cases hstep
  | acquire | respond | release =>
      simp only [step] at hstep
      split at hstep
      all_goals simp only [Option.ite_none_right_eq_some, reduceCtorEq, Option.some.injEq] at hstep
      all_goals
        first
        | subst hstep
        | obtain ⟨-, rfl⟩ := hstep
        simp [ProviderEvent.call, Provider.goto, finish] at hphase

/-- Only the response to a call's own request replaces the credential. -/
theorem credential_step {config : ProviderConfig} {provider next : Provider}
    {event : ProviderEvent} (hstep : provider.step config event = some next) :
    next.credential = provider.credential ∨
      (provider.calls event.call).phase.refreshes = true := by
  cases event with
  | resolve | resolveAsync | look | storeLock | storeLoop | abandon | enter | refuse | request =>
      simp only [step, Option.ite_none_right_eq_some] at hstep
      cases hstep.2
      exact .inl rfl
  | check | exit =>
      simp only [step, Option.ite_none_right_eq_some] at hstep
      obtain ⟨-, hnext⟩ := hstep
      split at hnext
      all_goals
        cases hnext
        exact .inl rfl
  | compare call =>
      simp only [step] at hstep
      split at hstep
      · cases hstep
        exact .inl rfl
      · split at hstep
        all_goals
          cases hstep
          exact .inl rfl
      · cases hstep
  | acquire | release =>
      simp only [step] at hstep
      split at hstep
      all_goals simp only [Option.ite_none_right_eq_some, reduceCtorEq, Option.some.injEq] at hstep
      all_goals
        first
        | subst hstep
        | obtain ⟨-, rfl⟩ := hstep
        exact .inl rfl
  | respond call response =>
      simp only [step] at hstep
      split at hstep
      · rename_i hphase
        right
        rw [ProviderEvent.call, hphase]
        rfl
      · cases hstep
        exact .inl rfl
      · cases hstep

/-- What holds in every state of a run whose calls share their locks. -/
structure SingleFlight (config : ProviderConfig) (provider : Provider) : Prop where
  calls : ∀ call, CallOk config provider call
  shared : config.asyncTransport = true → provider.LocksShared
  tokens : ∀ call token, (provider.calls call).phase = .refreshing token →
    token = provider.credential.refreshToken

theorem SingleFlight.fresh (config : ProviderConfig) (credential : OAuthCredential) :
    SingleFlight config (Provider.fresh credential) where
  calls _ := by
    refine .of_outside (Finset.notMem_empty _) ?_ rfl ?_ rfl ?_
    all_goals simp [Provider.fresh, ResolvePhase.active, ResolvePhase.asyncOnly]
  shared _ _ _ _ _ _ hlock := by cases hlock
  tokens _ _ hphase := by cases hphase

theorem SingleFlight.step {config : ProviderConfig} {provider next : Provider}
    {event : ProviderEvent} (hflight : SingleFlight config provider)
    (hshares : provider.SharesLock config event)
    (hstep : provider.step config event = some next) : SingleFlight config next where
  calls := callOk_step hflight.calls hstep
  shared hasync := locksShared_step hasync hflight.calls (hflight.shared hasync) hshares hstep
  tokens call token hphase := by
    by_cases hcall : call = event.call
    · rw [hcall] at hphase
      exact token_step_self hstep hphase
    · rw [(frame_step hflight.calls hstep).calls call hcall] at hphase
      rcases credential_step hstep with hsame | hrefreshes
      · rw [hsame]
        exact hflight.tokens call token hphase
      · exact absurd (refreshing_unique hflight.calls hflight.shared (by rw [hphase]; rfl)
          hrefreshes) hcall

/-- In every run in which no two unfinished calls of one thread are given
different lock objects, at most one refresh is in flight and every request in
flight carries the stored refresh token. -/
theorem single_refresh_in_flight (config : ProviderConfig) :
    ∀ provider, (system config).ReachableUnder (SharesLock config) provider →
      (∀ one two first second, (provider.calls one).phase = .refreshing first →
        (provider.calls two).phase = .refreshing second → one = two) ∧
      (∀ call token, (provider.calls call).phase = .refreshing token →
        token = provider.credential.refreshToken) := by
  intro provider hreach
  have hflight : SingleFlight config provider := by
    refine hreach.invariant ?_ (fun _ _ _ => SingleFlight.step)
    rintro _ ⟨credential, rfl⟩
    exact SingleFlight.fresh config credential
  refine ⟨?_, hflight.tokens⟩
  intro one two first second hone htwo
  exact refreshing_unique hflight.calls hflight.shared (by rw [hone]; rfl) (by rw [htwo]; rfl)

/-- One task refreshes an expired credential over an asynchronous transport. -/
theorem single_refresh_of_one_task :
    ∃ provider, (system ⟨true, 60⟩).ReachableUnder (SharesLock ⟨true, 60⟩) provider ∧
      (provider.calls 0).phase = .refreshing "refresh-1" ∧
      (∀ other token, (provider.calls other).phase = .refreshing token → other = 0) ∧
      provider.credential.refreshToken = "refresh-1" := by
  let started := (fresh ⟨"access-1", some 0, "refresh-1"⟩).start 0 1 (some 10) .entered
  let looked := started.goto 0 (.looked none)
  have hfresh : (system ⟨true, 60⟩).ReachableUnder (SharesLock ⟨true, 60⟩)
      (fresh ⟨"access-1", some 0, "refresh-1"⟩) := .start ⟨_, rfl⟩
  have hstarted := hfresh.next (.resolveAsync 0 1 10) trivial (by rfl : _ = some started)
  have hlooked := hstarted.next (.look 0) trivial (by rfl : _ = some looked)
  have hstale := hlooked.next (.compare 0) (fun _ _ hphase => by cases hphase)
    (by rfl : _ = some (looked.goto 0 .stale))
  have hstored := hstale.take (.storeLock 0)
    (fun _ other hne _ => by
      simp [looked, started, Provider.goto, start, Provider.fresh, Function.update_of_ne hne])
    (by decide +kernel)
  have hwaiting := hstored.take (.storeLoop 0) trivial (by decide +kernel)
  have hacquired := hwaiting.take (.acquire 0) trivial (by decide +kernel)
  have hentered := hacquired.take (.enter 0) trivial (by decide +kernel)
  have hchecked := hentered.take (.check 0 0) trivial (by decide +kernel)
  have hrequested := hchecked.take (.request 0) trivial (by decide +kernel)
  have hflight := single_refresh_in_flight ⟨true, 60⟩ _ hrequested
  refine ⟨_, hrequested, by decide +kernel, fun other token hother => ?_, ?_⟩
  · exact hflight.1 other 0 token "refresh-1" hother (by decide +kernel)
  · exact (hflight.2 0 "refresh-1" (by decide +kernel)).symm

/-- Two loops in two threads. While task 0 of thread 1 awaits its refresh, task 1
of thread 2 replaces the lock object and blocks; task 2 of thread 1 then finds a
foreign loop, creates a third lock and passes the re-entrant lock of its own
thread. Both requests of thread 1 are in flight. -/
theorem two_refreshes_after_second_loop :
    ¬ ∀ provider, (system ⟨true, 60⟩).Reachable provider →
      (∀ one two first second, (provider.calls one).phase = .refreshing first →
        (provider.calls two).phase = .refreshing second → one = two) ∧
      (∀ call token, (provider.calls call).phase = .refreshing token →
        token = provider.credential.refreshToken) := by
  intro hclaim
  obtain ⟨provider, hreach, htest⟩ := (system ⟨true, 60⟩).exists_reachable_of_run
    (fresh ⟨"access-1", some 0, "refresh-1"⟩) ⟨_, rfl⟩
    [ .resolveAsync 0 1 10, .look 0, .compare 0, .storeLock 0, .storeLoop 0, .acquire 0
    , .enter 0, .check 0 0, .request 0
    , .resolveAsync 1 2 20, .look 1, .compare 1, .storeLock 1, .storeLoop 1, .acquire 1
    , .resolveAsync 2 1 10, .look 2, .compare 2, .storeLock 2, .storeLoop 2, .acquire 2
    , .enter 2, .check 2 0, .request 2 ]
    (fun provider => decide ((provider.calls 0).phase = .refreshing "refresh-1") &&
      decide ((provider.calls 2).phase = .refreshing "refresh-1"))
    (by decide +kernel)
  simp only [Bool.and_eq_true, decide_eq_true_eq] at htest
  have hsame := (hclaim provider hreach).1 0 2 _ _ htest.1 htest.2
  cases hsame

end DataSluice.Runtime.Provider
