/-
# The registry of per-key locks

`_key_lock_held` keeps one `RLock` for each scope that is in use, in a dictionary of the
process, beside the number of its users. A call looks the lock up or creates it and counts
itself under the guard; takes the lock and the file lock; runs the body; and under the guard
again takes its count back, and drops the lock when it was the last user.

Every statement that touches the dictionaries is a step of its own, so that the guard is what
keeps the statements of two calls apart. Any call may take the next step: the calls of one
thread need not nest, since a generator can be left in the body of one. An exception can leave
a call while it waits for a lock, while the file lock is opened or waited for, and in the body.
-/

import Mathlib.Logic.Function.Basic
import DataSluice.Lib.Transition

namespace DataSluice.Sync

open DataSluice.Lib

/-! ## Calls -/

/-- Where a call of `_key_lock_held` stands. From `looking` to `counted` and from `discounting`
to `dropped` it holds the guard. -/
inductive LockPhase
  | entering
  | looking
  | creating
  | counting (lock : Nat)
  | counted (lock : Nat)
  | /-- It waits for the lock. -/
    waiting (lock : Nat)
  | /-- It has the lock, and enters `_file_lock`. -/
    holding (lock : Nat)
  | /-- The body runs. -/
    inside (lock : Nat)
  | /-- The file lock is given back. -/
    releasing (lock : Nat)
  | /-- It waits for the guard a second time. -/
    leaving (lock : Nat)
  | discounting (lock : Nat)
  | dropping
  | dropped
  | finished
  deriving DecidableEq

namespace LockPhase

/-- The call holds the guard. -/
def guarded : LockPhase → Bool
  | .looking | .creating | .counting _ | .counted _ | .discounting _ | .dropping | .dropped => true
  | _ => false

/-- The call counted itself and did not take its count back. -/
def registered : LockPhase → Bool
  | .counted _ | .waiting _ | .holding _ | .inside _ | .releasing _ | .leaving _
  | .discounting _ => true
  | _ => false

/-- The lock that the call got, until its count is taken back. -/
def lock? : LockPhase → Option Nat
  | .counting lock | .counted lock | .waiting lock | .holding lock | .inside lock
  | .releasing lock | .leaving lock | .discounting lock => some lock
  | _ => none

/-- The lock whose protected region the call is in. -/
def held? : LockPhase → Option Nat
  | .holding lock | .inside lock | .releasing lock => some lock
  | _ => none

theorem lock?_of_held? {phase : LockPhase} {lock : Nat} (hheld : phase.held? = some lock) :
    phase.lock? = some lock := by
  cases phase with
  | holding | inside | releasing => exact hheld
  | _ => cases hheld

/-- A lock that is kept without the guard is counted. -/
theorem registered_of_lock? {phase : LockPhase} {lock : Nat} (hlock : phase.lock? = some lock)
    (hfree : phase.guarded = false) : phase.registered = true := by
  cases phase with
  | waiting | holding | inside | releasing | leaving => rfl
  | counting | counted | discounting => cases hfree
  | _ => cases hlock

end LockPhase

/-- A call of `_key_lock_held`. -/
structure KeyCall (Scope : Type) where
  thread : Nat
  scope : Scope
  phase : LockPhase
  deriving DecidableEq

/-- `_GLOBAL_LOCKS`, `_GLOBAL_LOCKS_USERS` and their guard, the `RLock` objects of the process,
which are numbered as they are created, and the calls. -/
structure LockTable (Scope : Type) where
  locks : Scope → Option Nat := fun _ => none
  users : Scope → Option Int := fun _ => none
  guard : Option Nat := none
  created : Nat := 0
  owner : Nat → Option Nat := fun _ => none
  depth : Nat → Nat := fun _ => 0
  calls : List (KeyCall Scope) := []

/-- The scheduler's choices. -/
inductive LockEvent (Scope : Type)
  | /-- A thread calls `_key_lock_held`. -/
    enter (thread : Nat) (scope : Scope)
  | /-- A call runs its next statement. -/
    go (index : Nat)
  | /-- An exception is raised where a call stands. -/
    raise (index : Nat)

namespace LockTable

variable {Scope : Type} [DecidableEq Scope] (table : LockTable Scope)

/-- Put a call into another phase. -/
def goto (index : Nat) (call : KeyCall Scope) (phase : LockPhase) : LockTable Scope :=
  { table with calls := table.calls.set index { call with phase := phase } }

/-- The `RLock` is free, or this thread holds it already. -/
def available (lock thread : Nat) : Bool :=
  decide (table.owner lock = none ∨ table.owner lock = some thread)

/-- `RLock.acquire` -/
def acquire (lock thread : Nat) : LockTable Scope :=
  { table with
    owner := Function.update table.owner lock (some thread)
    depth := Function.update table.depth lock (table.depth lock + 1) }

/-- `RLock.release` -/
def release (lock : Nat) : LockTable Scope :=
  { table with
    owner := if table.depth lock ≤ 1 then Function.update table.owner lock none else table.owner
    depth := Function.update table.depth lock (table.depth lock - 1) }

/-- The next statement of a call. -/
def advance (index : Nat) (call : KeyCall Scope) : Option (LockTable Scope) :=
  match call.phase with
  | .entering =>
      if table.guard = none then some ({ table with guard := some index }.goto index call .looking)
      else none
  | .looking =>
      match table.locks call.scope with
      | none => some (table.goto index call .creating)
      | some lock => some (table.goto index call (.counting lock))
  | .creating =>
      some ({ table with
        locks := Function.update table.locks call.scope (some table.created)
        created := table.created + 1 }.goto index call (.counting table.created))
  | .counting lock =>
      some ({ table with
        users := Function.update table.users call.scope
          (some ((table.users call.scope).getD 0 + 1)) }.goto index call (.counted lock))
  | .counted lock => some ({ table with guard := none }.goto index call (.waiting lock))
  | .waiting lock =>
      if table.available lock call.thread = true then
        some ((table.acquire lock call.thread).goto index call (.holding lock))
      else none
  | .holding lock => some (table.goto index call (.inside lock))
  | .inside lock => some (table.goto index call (.releasing lock))
  | .releasing lock => some ((table.release lock).goto index call (.leaving lock))
  | .leaving lock =>
      if table.guard = none then
        some ({ table with guard := some index }.goto index call (.discounting lock))
      else none
  | .discounting _ =>
      if 0 < (table.users call.scope).getD 0 - 1 then
        some ({ table with
          users := Function.update table.users call.scope
            (some ((table.users call.scope).getD 0 - 1)) }.goto index call .dropped)
      else
        some ({ table with
          users := Function.update table.users call.scope none }.goto index call .dropping)
  | .dropping =>
      some ({ table with
        locks := Function.update table.locks call.scope none }.goto index call .dropped)
  | .dropped => some ({ table with guard := none }.goto index call .finished)
  | .finished => none

/-- An exception where a call stands: the `finally` block runs once the call is counted, and the
lock is given back once it is held. -/
def interrupt (index : Nat) (call : KeyCall Scope) : Option (LockTable Scope) :=
  match call.phase with
  | .entering => some (table.goto index call .finished)
  | .waiting lock => some (table.goto index call (.leaving lock))
  | .holding lock | .inside lock => some (table.goto index call (.releasing lock))
  | _ => none

/-- One step. -/
def step : LockEvent Scope → Option (LockTable Scope)
  | .enter thread scope => some { table with calls := table.calls ++ [⟨thread, scope, .entering⟩] }
  | .go index => table.calls[index]?.bind (table.advance index)
  | .raise index => table.calls[index]?.bind (table.interrupt index)

/-- The runs of a process. -/
def system (Scope : Type) [DecidableEq Scope] : System (LockTable Scope) (LockEvent Scope) where
  init table := table = {}
  step := step

/-- How many calls are between their registration and their deregistration for a scope. -/
def registered (scope : Scope) : Nat :=
  table.calls.countP fun call => decide (call.scope = scope) && call.phase.registered

/-- The entry of a counter: none where it would be 0. -/
def userEntry (count : Nat) : Option Int := if count = 0 then none else some count

/-! ## The account of the calls -/

/-- What holds between two statements. -/
structure Consistent (table : LockTable Scope) : Prop where
  guard : ∀ (index : Nat) (call : KeyCall Scope), table.calls[index]? = some call →
    call.phase.guarded = true → table.guard = some index
  users : ∀ scope, table.users scope = userEntry (table.registered scope)
  lock : ∀ (index : Nat) (call : KeyCall Scope) (lock : Nat), table.calls[index]? = some call →
    call.phase.lock? = some lock → table.locks call.scope = some lock
  creating : ∀ (index : Nat) (call : KeyCall Scope), table.calls[index]? = some call →
    call.phase = .creating → table.locks call.scope = none
  dropping : ∀ (index : Nat) (call : KeyCall Scope), table.calls[index]? = some call →
    call.phase = .dropping → table.registered call.scope = 0

variable {table} {target : LockTable Scope} {index : Nat} {call : KeyCall Scope}
  {phase : LockPhase}

omit [DecidableEq Scope] in
/-- A call of the changed list is the one that was moved, or an old one. -/
theorem getElem?_moved {calls : List (KeyCall Scope)} {other : Nat} {moved found : KeyCall Scope}
    (hfound : (calls.set index moved)[other]? = some found) :
    (other = index ∧ found = moved) ∨ (other ≠ index ∧ calls[other]? = some found) := by
  rw [List.getElem?_set] at hfound
  by_cases hsame : index = other
  · rw [if_pos hsame] at hfound
    split at hfound
    · exact .inl ⟨hsame.symm, (Option.some.inj hfound).symm⟩
    · cases hfound
  · rw [if_neg hsame] at hfound
    exact .inr ⟨Ne.symm hsame, hfound⟩

/-- Moving a call counts it as it stands behind the step, and no longer as before. -/
theorem registered_moved (hcall : table.calls[index]? = some call)
    (htarget : target.calls = table.calls.set index { call with phase := phase })
    (scope : Scope) :
    target.registered scope +
        (if call.scope = scope ∧ call.phase.registered = true then 1 else 0) =
      table.registered scope +
        if call.scope = scope ∧ phase.registered = true then 1 else 0 := by
  obtain ⟨hindex, hget⟩ := List.getElem?_eq_some_iff.mp hcall
  unfold registered
  rw [htarget, List.countP_set hindex, hget]
  have hcounted : (if (decide (call.scope = scope) && call.phase.registered) = true then 1
      else 0) ≤ table.calls.countP fun call =>
        decide (call.scope = scope) && call.phase.registered := by
    split
    · next hregistered =>
        exact List.countP_pos_iff.mpr ⟨call, List.mem_of_getElem? hcall, hregistered⟩
    · exact Nat.zero_le _
  simp only [Bool.and_eq_true, decide_eq_true_eq] at hcounted ⊢
  omega

/-- A step that does not change whether a call is counted changes no count. -/
theorem registered_same (hcall : table.calls[index]? = some call)
    (htarget : target.calls = table.calls.set index { call with phase := phase })
    (hsame : phase.registered = call.phase.registered) (scope : Scope) :
    target.registered scope = table.registered scope := by
  have hmoved := registered_moved hcall htarget scope
  rw [hsame] at hmoved
  omega

/-- A call that has a lock and not the guard is counted. -/
theorem Consistent.registered_pos (hinv : Consistent table) {other : Nat}
    {found : KeyCall Scope} (hfound : table.calls[other]? = some found) {lock : Nat}
    (hlock : found.phase.lock? = some lock) (hguard : table.guard ≠ some other) :
    0 < table.registered found.scope := by
  have hfree : found.phase.guarded = false := by
    by_contra hguarded
    rw [Bool.not_eq_false] at hguarded
    exact hguard (hinv.guard other found hfound hguarded)
  apply List.countP_pos_iff.mpr
  refine ⟨found, List.mem_of_getElem? hfound, ?_⟩
  rw [decide_eq_true rfl, Bool.true_and]
  exact LockPhase.registered_of_lock? hlock hfree

/-- A statement under the guard: what it does to the dictionaries fits the counts, and leaves
the locks of all scopes that are in use. -/
theorem Consistent.under_guard (hinv : Consistent table)
    (hcall : table.calls[index]? = some call) (hguarded : call.phase.guarded = true)
    (htarget : target.calls = table.calls.set index { call with phase := phase })
    (hguard : phase.guarded = true → target.guard = some index)
    (husers : ∀ scope, target.users scope = userEntry (target.registered scope))
    (hlocks : ∀ scope, 0 < table.registered scope → table.locks scope ≠ none →
      target.locks scope = table.locks scope)
    (hlock : ∀ lock, phase.lock? = some lock → target.locks call.scope = some lock)
    (hcreating : phase = .creating → target.locks call.scope = none)
    (hdropping : phase = .dropping → target.registered call.scope = 0) : Consistent target := by
  have hmine : table.guard = some index := hinv.guard index call hcall hguarded
  -- no other call has the guard
  have hothers : ∀ other found, other ≠ index → table.calls[other]? = some found →
      found.phase.guarded = false := by
    intro other found hne hfound
    by_contra hheld
    rw [Bool.not_eq_false] at hheld
    have hother := hinv.guard other found hfound hheld
    rw [hmine] at hother
    exact hne (Option.some.inj hother).symm
  refine ⟨?_, husers, ?_, ?_, ?_⟩
  · intro other found hfound hheld
    rw [htarget] at hfound
    rcases getElem?_moved hfound with ⟨rfl, rfl⟩ | ⟨hne, hold⟩
    · exact hguard hheld
    · rw [hothers other found hne hold] at hheld
      cases hheld
  · intro other found lock hfound hheld
    rw [htarget] at hfound
    rcases getElem?_moved hfound with ⟨rfl, rfl⟩ | ⟨hne, hold⟩
    · exact hlock lock hheld
    · have hkept := hinv.lock other found lock hold hheld
      have hother : table.guard ≠ some other := by
        rw [hmine]
        exact fun hsame => hne (Option.some.inj hsame).symm
      rw [hlocks found.scope (hinv.registered_pos hold hheld hother) (by simp [hkept])]
      exact hkept
  · intro other found hfound hphase
    rw [htarget] at hfound
    rcases getElem?_moved hfound with ⟨rfl, rfl⟩ | ⟨hne, hold⟩
    · exact hcreating hphase
    · have hfree := hothers other found hne hold
      rw [hphase] at hfree
      cases hfree
  · intro other found hfound hphase
    rw [htarget] at hfound
    rcases getElem?_moved hfound with ⟨rfl, rfl⟩ | ⟨hne, hold⟩
    · exact hdropping hphase
    · have hfree := hothers other found hne hold
      rw [hphase] at hfree
      cases hfree

/-- A statement without the guard, or one that takes it: it leaves the dictionaries alone. -/
theorem Consistent.without_guard (hinv : Consistent table)
    (hcall : table.calls[index]? = some call)
    (htarget : target.calls = table.calls.set index { call with phase := phase })
    (hlocks : target.locks = table.locks) (husers : target.users = table.users)
    (hguard : target.guard = table.guard ∧ phase.guarded = false ∨
      table.guard = none ∧ target.guard = some index)
    (hregistered : phase.registered = call.phase.registered)
    (hlock : ∀ lock, phase.lock? = some lock → call.phase.lock? = some lock)
    (hcreating : phase ≠ .creating) (hdropping : phase ≠ .dropping) : Consistent target := by
  have hcount := registered_same hcall htarget hregistered
  refine ⟨?_, ?_, ?_, ?_, ?_⟩
  · intro other found hfound hheld
    rw [htarget] at hfound
    rcases getElem?_moved hfound with ⟨rfl, rfl⟩ | ⟨hne, hold⟩
    · rcases hguard with ⟨-, hfree⟩ | ⟨-, htaken⟩
      · rw [show phase.guarded = true from hheld] at hfree
        cases hfree
      · exact htaken
    · have hother := hinv.guard other found hold hheld
      rcases hguard with ⟨hsame, -⟩ | ⟨hnone, -⟩
      · rw [hsame]
        exact hother
      · rw [hnone] at hother
        cases hother
  · intro scope
    rw [husers, hcount]
    exact hinv.users scope
  · intro other found lock hfound hheld
    rw [htarget] at hfound
    rw [hlocks]
    rcases getElem?_moved hfound with ⟨rfl, rfl⟩ | ⟨hne, hold⟩
    · exact hinv.lock other call lock hcall (hlock lock hheld)
    · exact hinv.lock other found lock hold hheld
  · intro other found hfound hphase
    rw [htarget] at hfound
    rw [hlocks]
    rcases getElem?_moved hfound with ⟨rfl, rfl⟩ | ⟨hne, hold⟩
    · exact absurd hphase hcreating
    · exact hinv.creating other found hold hphase
  · intro other found hfound hphase
    rw [htarget] at hfound
    rw [hcount]
    rcases getElem?_moved hfound with ⟨rfl, rfl⟩ | ⟨hne, hold⟩
    · exact absurd hphase hdropping
    · exact hinv.dropping other found hold hphase

/-- The counter of a scope is its count, as a number. -/
theorem Consistent.getD_users (hinv : Consistent table) (scope : Scope) :
    (table.users scope).getD 0 = table.registered scope := by
  rw [hinv.users, userEntry]
  split
  · next hzero =>
      rw [hzero]
      rfl
  · rfl

/-- A counter that was set to the count behind the step fits; the others did not change. -/
theorem users_updated (hinv : Consistent table) (hcall : table.calls[index]? = some call)
    (htarget : target.calls = table.calls.set index { call with phase := phase })
    {entry : Option Int} (husers : target.users = Function.update table.users call.scope entry)
    (hentry : entry = userEntry (target.registered call.scope)) (scope : Scope) :
    target.users scope = userEntry (target.registered scope) := by
  rw [husers]
  by_cases hsame : scope = call.scope
  · rw [hsame, Function.update_self]
    exact hentry
  · have hmoved := registered_moved hcall htarget scope
    rw [if_neg fun hboth => hsame hboth.1.symm, if_neg fun hboth => hsame hboth.1.symm] at hmoved
    rw [Function.update_of_ne hsame, hinv.users, show target.registered scope =
      table.registered scope from hmoved]

/-- A statement under the guard that leaves the counters alone. -/
theorem Consistent.same_users (hinv : Consistent table) (hcall : table.calls[index]? = some call)
    (htarget : target.calls = table.calls.set index { call with phase := phase })
    (husers : target.users = table.users) (hsame : phase.registered = call.phase.registered)
    (scope : Scope) : target.users scope = userEntry (target.registered scope) := by
  rw [husers, registered_same hcall htarget hsame]
  exact hinv.users scope

/-- A call that counts itself adds one. -/
theorem registered_counted (hcall : table.calls[index]? = some call)
    (htarget : target.calls = table.calls.set index { call with phase := phase })
    (hbefore : call.phase.registered = false) (hafter : phase.registered = true) :
    target.registered call.scope = table.registered call.scope + 1 := by
  have hmoved := registered_moved hcall htarget call.scope
  simpa [hbefore, hafter] using hmoved

/-- A call that takes its count back was one of those that are counted. -/
theorem registered_discounted (hcall : table.calls[index]? = some call)
    (htarget : target.calls = table.calls.set index { call with phase := phase })
    (hbefore : call.phase.registered = true) (hafter : phase.registered = false) :
    table.registered call.scope = target.registered call.scope + 1 := by
  have hmoved := registered_moved hcall htarget call.scope
  simpa [hbefore, hafter] using hmoved.symm

/-- The entry of a counter that is not the last user's. -/
theorem userEntry_discounted {before after : Nat} (hcount : before = after + 1)
    (hremaining : 0 < (before : Int) - 1) : userEntry after = some ((before : Int) - 1) := by
  rw [userEntry, if_neg (by omega)]
  congr 1
  omega

/-- The last user leaves no count. -/
theorem zero_of_last {before after : Nat} (hcount : before = after + 1)
    (hremaining : ¬ 0 < (before : Int) - 1) : after = 0 := by omega

theorem userEntry_last {before after : Nat} (hcount : before = after + 1)
    (hremaining : ¬ 0 < (before : Int) - 1) : userEntry after = none :=
  if_pos (zero_of_last hcount hremaining)

/-- The next statement of a call. -/
theorem Consistent.advance (hinv : Consistent table) (hcall : table.calls[index]? = some call)
    (hstep : table.advance index call = some target) : Consistent target := by
  unfold LockTable.advance at hstep
  cases hphase : call.phase with
  | entering =>
      simp only [hphase] at hstep
      split at hstep
      · next hfree =>
          cases hstep
          refine hinv.without_guard hcall rfl rfl rfl (.inr ⟨hfree, rfl⟩) ?_ ?_ ?_ ?_
          all_goals simp [hphase, LockPhase.registered, LockPhase.lock?]
      · cases hstep
  | looking =>
      simp only [hphase] at hstep
      cases hlocks : table.locks call.scope with
      | none =>
          simp only [hlocks] at hstep
          cases hstep
          have hmine := hinv.guard index call hcall (by rw [hphase]; rfl)
          refine hinv.under_guard hcall (by rw [hphase]; rfl) rfl (fun _ => hmine)
            (hinv.same_users hcall rfl rfl (by rw [hphase]; rfl)) (fun _ _ _ => rfl) ?_ ?_ ?_
          · exact fun lock hlock => nomatch hlock
          · exact fun _ => hlocks
          · exact fun hdrops => nomatch hdrops
      | some lock =>
          simp only [hlocks] at hstep
          cases hstep
          have hmine := hinv.guard index call hcall (by rw [hphase]; rfl)
          refine hinv.under_guard hcall (by rw [hphase]; rfl) rfl (fun _ => hmine)
            (hinv.same_users hcall rfl rfl (by rw [hphase]; rfl)) (fun _ _ _ => rfl) ?_ ?_ ?_
          · rintro _ ⟨⟩
            exact hlocks
          · exact fun hcreates => nomatch hcreates
          · exact fun hdrops => nomatch hdrops
  | creating =>
      simp only [hphase] at hstep
      cases hstep
      have hmine := hinv.guard index call hcall (by rw [hphase]; rfl)
      have hnone := hinv.creating index call hcall hphase
      refine hinv.under_guard hcall (by rw [hphase]; rfl) rfl (fun _ => hmine)
        (hinv.same_users hcall rfl rfl (by rw [hphase]; rfl)) ?_ ?_ ?_ ?_
      · intro scope _ hsome
        have hne : scope ≠ call.scope := by
          rintro rfl
          exact hsome hnone
        exact Function.update_of_ne hne _ _
      · rintro _ ⟨⟩
        exact Function.update_self _ _ _
      · exact fun hcreates => nomatch hcreates
      · exact fun hdrops => nomatch hdrops
  | counting lock =>
      simp only [hphase] at hstep
      cases hstep
      have hmine := hinv.guard index call hcall (by rw [hphase]; rfl)
      have hlock := hinv.lock index call lock hcall (by rw [hphase]; rfl)
      refine hinv.under_guard hcall (by rw [hphase]; rfl) rfl (fun _ => hmine)
        (users_updated hinv hcall rfl rfl ?_) (fun _ _ _ => rfl) ?_ ?_ ?_
      · rw [registered_counted hcall rfl (by rw [hphase]; rfl) rfl, hinv.getD_users, userEntry,
          if_neg (Nat.succ_ne_zero _)]
        rfl
      · rintro _ ⟨⟩
        exact hlock
      · exact fun hcreates => nomatch hcreates
      · exact fun hdrops => nomatch hdrops
  | counted lock =>
      simp only [hphase] at hstep
      cases hstep
      have hlock := hinv.lock index call lock hcall (by rw [hphase]; rfl)
      refine hinv.under_guard hcall (by rw [hphase]; rfl) rfl (fun hguarded => nomatch hguarded)
        (hinv.same_users hcall rfl rfl (by rw [hphase]; rfl)) (fun _ _ _ => rfl) ?_ ?_ ?_
      · rintro _ ⟨⟩
        exact hlock
      · exact fun hcreates => nomatch hcreates
      · exact fun hdrops => nomatch hdrops
  | waiting lock =>
      simp only [hphase] at hstep
      split at hstep
      · cases hstep
        refine hinv.without_guard hcall rfl rfl rfl (.inl ⟨rfl, rfl⟩) ?_ ?_ ?_ ?_
        all_goals simp [hphase, LockPhase.registered, LockPhase.lock?]
      · cases hstep
  | holding lock | inside lock | releasing lock =>
      simp only [hphase] at hstep
      cases hstep
      refine hinv.without_guard hcall rfl rfl rfl (.inl ⟨rfl, rfl⟩) ?_ ?_ ?_ ?_
      all_goals simp [hphase, LockPhase.registered, LockPhase.lock?]
  | leaving lock =>
      simp only [hphase] at hstep
      split at hstep
      · next hfree =>
          cases hstep
          refine hinv.without_guard hcall rfl rfl rfl (.inr ⟨hfree, rfl⟩) ?_ ?_ ?_ ?_
          all_goals simp [hphase, LockPhase.registered, LockPhase.lock?]
      · cases hstep
  | discounting lock =>
      simp only [hphase, hinv.getD_users] at hstep
      have hmine := hinv.guard index call hcall (by rw [hphase]; rfl)
      split at hstep
      · next hremaining =>
          obtain rfl := Option.some.inj hstep
          refine hinv.under_guard hcall (by rw [hphase]; rfl) rfl (fun _ => hmine)
            (users_updated hinv hcall rfl rfl ?_) (fun _ _ _ => rfl) ?_ ?_ ?_
          · symm
            exact userEntry_discounted (registered_discounted hcall rfl (by rw [hphase]; rfl) rfl)
              hremaining
          · exact fun lock hlock => nomatch hlock
          · exact fun hcreates => nomatch hcreates
          · exact fun hdrops => nomatch hdrops
      · next hremaining =>
          obtain rfl := Option.some.inj hstep
          refine hinv.under_guard hcall (by rw [hphase]; rfl) rfl (fun _ => hmine)
            (users_updated hinv hcall rfl rfl ?_) (fun _ _ _ => rfl) ?_ ?_ ?_
          · symm
            exact userEntry_last (registered_discounted hcall rfl (by rw [hphase]; rfl) rfl)
              hremaining
          · exact fun lock hlock => nomatch hlock
          · exact fun hcreates => nomatch hcreates
          · exact fun _ => zero_of_last
              (registered_discounted hcall rfl (by rw [hphase]; rfl) rfl) hremaining
  | dropping =>
      simp only [hphase] at hstep
      cases hstep
      have hmine := hinv.guard index call hcall (by rw [hphase]; rfl)
      have hzero := hinv.dropping index call hcall hphase
      refine hinv.under_guard hcall (by rw [hphase]; rfl) rfl (fun _ => hmine)
        (hinv.same_users hcall rfl rfl (by rw [hphase]; rfl)) ?_ ?_ ?_ ?_
      · intro scope hpos _
        have hne : scope ≠ call.scope := by
          rintro rfl
          omega
        exact Function.update_of_ne hne _ _
      · exact fun lock hlock => nomatch hlock
      · exact fun hcreates => nomatch hcreates
      · exact fun hdrops => nomatch hdrops
  | dropped =>
      simp only [hphase] at hstep
      cases hstep
      refine hinv.under_guard hcall (by rw [hphase]; rfl) rfl (fun hguarded => nomatch hguarded)
        (hinv.same_users hcall rfl rfl (by rw [hphase]; rfl)) (fun _ _ _ => rfl) ?_ ?_ ?_
      · exact fun lock hlock => nomatch hlock
      · exact fun hcreates => nomatch hcreates
      · exact fun hdrops => nomatch hdrops
  | finished =>
      simp only [hphase] at hstep
      cases hstep

/-- An exception where a call stands. -/
theorem Consistent.interrupt (hinv : Consistent table) (hcall : table.calls[index]? = some call)
    (hstep : table.interrupt index call = some target) : Consistent target := by
  unfold LockTable.interrupt at hstep
  cases hphase : call.phase with
  | entering | waiting lock | holding lock | inside lock =>
      simp only [hphase] at hstep
      cases hstep
      refine hinv.without_guard hcall rfl rfl rfl (.inl ⟨rfl, rfl⟩) ?_ ?_ ?_ ?_
      all_goals simp [hphase, LockPhase.registered, LockPhase.lock?]
  | _ =>
      simp only [hphase] at hstep
      cases hstep

omit [DecidableEq Scope] in
/-- The call that enters is the only new one. -/
theorem getElem?_entered (calls : List (KeyCall Scope)) (thread : Nat) (scope : Scope)
    (index : Nat) (call : KeyCall Scope)
    (hcall : (calls ++ [⟨thread, scope, .entering⟩])[index]? = some call) :
    calls[index]? = some call ∨ call.phase = .entering := by
  rw [List.getElem?_append] at hcall
  split at hcall
  · exact .inl hcall
  · obtain rfl := List.mem_singleton.mp (List.mem_of_getElem? hcall)
    exact .inr rfl

/-- A new call waits for the guard. -/
theorem Consistent.enter (hinv : Consistent table) (thread : Nat) (scope : Scope) :
    Consistent { table with calls := table.calls ++ [⟨thread, scope, .entering⟩] } := by
  have hcount : ∀ scope', registered { table with
      calls := table.calls ++ [⟨thread, scope, .entering⟩] } scope' = table.registered scope' := by
    intro scope'
    unfold registered
    rw [List.countP_append]
    simp [LockPhase.registered]
  have hold := fun index call => getElem?_entered table.calls thread scope index call
  refine ⟨?_, ?_, ?_, ?_, ?_⟩
  · intro index call hcall hguarded
    rcases hold index call hcall with hcall | hphase
    · exact hinv.guard index call hcall hguarded
    · rw [hphase] at hguarded
      cases hguarded
  · intro scope'
    rw [hcount]
    exact hinv.users scope'
  · intro index call lock hcall hlock
    rcases hold index call hcall with hcall | hphase
    · exact hinv.lock index call lock hcall hlock
    · rw [hphase] at hlock
      cases hlock
  · intro index call hcall hcreates
    rcases hold index call hcall with hcall | hphase
    · exact hinv.creating index call hcall hcreates
    · rw [hphase] at hcreates
      cases hcreates
  · intro index call hcall hdrops
    rw [hcount]
    rcases hold index call hcall with hcall | hphase
    · exact hinv.dropping index call hcall hdrops
    · rw [hphase] at hdrops
      cases hdrops

theorem consistent_init : Consistent ({} : LockTable Scope) where
  guard _ _ hcall := nomatch hcall
  users _ := rfl
  lock _ _ _ hcall := nomatch hcall
  creating _ _ hcall := nomatch hcall
  dropping _ _ hcall := nomatch hcall

theorem consistent_step {event : LockEvent Scope} (hinv : Consistent table)
    (hstep : table.step event = some target) : Consistent target := by
  cases event with
  | enter thread scope =>
      cases hstep
      exact hinv.enter thread scope
  | go index =>
      obtain ⟨call, hcall, hnext⟩ := Option.bind_eq_some_iff.mp hstep
      exact hinv.advance hcall hnext
  | raise index =>
      obtain ⟨call, hcall, hnext⟩ := Option.bind_eq_some_iff.mp hstep
      exact hinv.interrupt hcall hnext

theorem consistent_of_reachable (hreach : (system Scope).Reachable table) : Consistent table := by
  refine System.ReachableUnder.invariant ?_ ?_ hreach
  · rintro _ rfl
    exact consistent_init
  · intro source event target hsource _ hstep
    exact consistent_step hsource hstep

/-! ## What a step does to the locks -/

/-- How many calls are in the protected region of a lock. -/
def holders (table : LockTable Scope) (lock : Nat) : Nat :=
  table.calls.countP fun call => decide (call.phase.held? = some lock)

/-- An `RLock` belongs to the thread of the calls in its protected region, and counts them. -/
structure Owned (table : LockTable Scope) : Prop where
  owner : ∀ (index : Nat) (call : KeyCall Scope) (lock : Nat), table.calls[index]? = some call →
    call.phase.held? = some lock → table.owner lock = some call.thread
  depth : ∀ lock, table.depth lock = table.holders lock

omit [DecidableEq Scope] in
theorem holders_moved (hcall : table.calls[index]? = some call)
    (htarget : target.calls = table.calls.set index { call with phase := phase }) (lock : Nat) :
    target.holders lock + (if call.phase.held? = some lock then 1 else 0) =
      table.holders lock + if phase.held? = some lock then 1 else 0 := by
  obtain ⟨hindex, hget⟩ := List.getElem?_eq_some_iff.mp hcall
  unfold holders
  rw [htarget, List.countP_set hindex, hget]
  have hcounted : (if decide (call.phase.held? = some lock) = true then 1 else 0) ≤
      table.calls.countP fun call => decide (call.phase.held? = some lock) := by
    split
    · next hheld =>
        exact List.countP_pos_iff.mpr ⟨call, List.mem_of_getElem? hcall, hheld⟩
    · exact Nat.zero_le _
  simp only [decide_eq_true_eq] at hcounted ⊢
  omega

omit [DecidableEq Scope] in
/-- A step that neither takes nor gives back a lock. -/
theorem Owned.same (howned : Owned table) (hcall : table.calls[index]? = some call)
    (htarget : target.calls = table.calls.set index { call with phase := phase })
    (howner : target.owner = table.owner) (hdepth : target.depth = table.depth)
    (hheld : phase.held? = call.phase.held?) : Owned target := by
  refine ⟨?_, ?_⟩
  · intro other found lock hfound hlock
    rw [htarget] at hfound
    rw [howner]
    rcases getElem?_moved hfound with ⟨rfl, rfl⟩ | ⟨-, hold⟩
    · exact howned.owner other call lock hcall (hheld ▸ hlock)
    · exact howned.owner other found lock hold hlock
  · intro lock
    have hmoved := holders_moved hcall htarget lock
    rw [hheld] at hmoved
    rw [hdepth, howned.depth]
    omega

omit [DecidableEq Scope] in
/-- A thread takes a lock that is free or its own. -/
theorem Owned.acquire (howned : Owned table) (hcall : table.calls[index]? = some call) {lock : Nat}
    (hphase : call.phase = .waiting lock) (havailable : table.available lock call.thread = true) :
    Owned ((table.acquire lock call.thread).goto index call (.holding lock)) := by
  have hfree : table.owner lock = none ∨ table.owner lock = some call.thread :=
    of_decide_eq_true havailable
  refine ⟨?_, ?_⟩
  · intro other found taken hfound htaken
    show Function.update table.owner lock (some call.thread) taken = some found.thread
    rcases getElem?_moved hfound with ⟨rfl, rfl⟩ | ⟨-, hold⟩
    · cases htaken
      exact Function.update_self _ _ _
    · have hheld := howned.owner other found taken hold htaken
      by_cases hsame : taken = lock
      · subst hsame
        rw [Function.update_self, ← hheld]
        rcases hfree with hnone | hmine
        · rw [hnone] at hheld
          cases hheld
        · exact hmine.symm
      · rw [Function.update_of_ne hsame]
        exact hheld
  · intro other
    have hcalls : ((table.acquire lock call.thread).goto index call (.holding lock)).calls =
        table.calls.set index { call with phase := .holding lock } := rfl
    have hmoved := holders_moved hcall hcalls other
    rw [hphase, if_neg (nofun : ¬ (LockPhase.waiting lock).held? = some other)] at hmoved
    show Function.update table.depth lock (table.depth lock + 1) other = _
    by_cases hsame : other = lock
    · rw [hsame, if_pos (show (LockPhase.holding lock).held? = some lock from rfl)] at hmoved
      rw [hsame, Function.update_self, howned.depth]
      omega
    · rw [if_neg fun hheld : (LockPhase.holding lock).held? = some other =>
        hsame (Option.some.inj hheld).symm] at hmoved
      rw [Function.update_of_ne hsame, howned.depth]
      omega

omit [DecidableEq Scope] in
/-- A thread gives a lock back; the last of its calls frees it. -/
theorem Owned.release (howned : Owned table) (hcall : table.calls[index]? = some call) {lock : Nat}
    (hphase : call.phase = .releasing lock) :
    Owned ((table.release lock).goto index call (.leaving lock)) := by
  have hcalls : ((table.release lock).goto index call (.leaving lock)).calls =
      table.calls.set index { call with phase := .leaving lock } := rfl
  have hmoved := holders_moved hcall hcalls
  simp only [hphase, show (LockPhase.leaving lock).held? = none from rfl,
    show (LockPhase.releasing lock).held? = some lock from rfl, Option.some.injEq, reduceCtorEq,
    if_false, Nat.add_zero] at hmoved
  refine ⟨?_, ?_⟩
  · intro other found taken hfound htaken
    show (if table.depth lock ≤ 1 then Function.update table.owner lock none
      else table.owner) taken = some found.thread
    have hpos : 0 < ((table.release lock).goto index call (.leaving lock)).holders taken :=
      List.countP_pos_iff.mpr ⟨found, List.mem_of_getElem? hfound, decide_eq_true htaken⟩
    rcases getElem?_moved hfound with ⟨rfl, rfl⟩ | ⟨-, hold⟩
    · cases htaken
    · have hheld := howned.owner other found taken hold htaken
      by_cases hsame : taken = lock
      · -- the other call still counts
        subst hsame
        have hcount := hmoved taken
        rw [if_pos rfl, ← howned.depth] at hcount
        rw [if_neg (by omega)]
        exact hheld
      · split
        · rw [Function.update_of_ne hsame]
          exact hheld
        · exact hheld
  · intro other
    have hcount := hmoved other
    rw [← howned.depth] at hcount
    show Function.update table.depth lock (table.depth lock - 1) other = _
    by_cases hsame : other = lock
    · rw [hsame, if_pos rfl] at hcount
      rw [hsame, Function.update_self]
      omega
    · rw [if_neg fun heq => hsame heq.symm] at hcount
      rw [Function.update_of_ne hsame]
      omega

/-- Every step keeps the locks with their threads. -/
theorem owned_step {event : LockEvent Scope} (howned : Owned table)
    (hstep : table.step event = some target) : Owned target := by
  cases event with
  | enter thread scope =>
      cases hstep
      refine ⟨?_, ?_⟩
      · intro index call lock hcall hlock
        rcases getElem?_entered table.calls thread scope index call hcall with hcall | hphase
        · exact howned.owner index call lock hcall hlock
        · rw [hphase] at hlock
          cases hlock
      · intro lock
        show table.depth lock =
          (table.calls ++ [(⟨thread, scope, .entering⟩ : KeyCall Scope)]).countP _
        rw [List.countP_append, howned.depth]
        rfl
  | go index =>
      obtain ⟨call, hcall, hnext⟩ := Option.bind_eq_some_iff.mp hstep
      unfold LockTable.advance at hnext
      cases hphase : call.phase with
      | entering | leaving lock | discounting lock =>
          simp only [hphase] at hnext
          split at hnext
          · cases hnext
            exact howned.same hcall rfl rfl rfl (by rw [hphase]; rfl)
          · first
            | (cases hnext
               exact howned.same hcall rfl rfl rfl (by rw [hphase]; rfl))
            | cases hnext
      | looking =>
          simp only [hphase] at hnext
          split at hnext
          · cases hnext
            exact howned.same hcall rfl rfl rfl (by rw [hphase]; rfl)
          · cases hnext
            exact howned.same hcall rfl rfl rfl (by rw [hphase]; rfl)
      | waiting lock =>
          simp only [hphase] at hnext
          split at hnext
          · next havailable =>
              cases hnext
              exact howned.acquire hcall hphase havailable
          · cases hnext
      | releasing lock =>
          simp only [hphase] at hnext
          cases hnext
          exact howned.release hcall hphase
      | finished =>
          simp only [hphase] at hnext
          cases hnext
      | creating | counting lock | counted lock | holding lock | inside lock | dropping | dropped =>
          simp only [hphase] at hnext
          cases hnext
          exact howned.same hcall rfl rfl rfl (by rw [hphase]; rfl)
  | raise index =>
      obtain ⟨call, hcall, hnext⟩ := Option.bind_eq_some_iff.mp hstep
      unfold LockTable.interrupt at hnext
      cases hphase : call.phase with
      | entering | waiting lock | holding lock | inside lock =>
          simp only [hphase] at hnext
          cases hnext
          exact howned.same hcall rfl rfl rfl (by rw [hphase]; rfl)
      | _ =>
          simp only [hphase] at hnext
          cases hnext

theorem owned_of_reachable (hreach : (system Scope).Reachable table) : Owned table := by
  refine System.ReachableUnder.invariant ?_ ?_ hreach
  · rintro _ rfl
    exact ⟨fun _ _ _ hcall => (nomatch hcall), fun _ => rfl⟩
  · intro source event target hsource _ hstep
    exact owned_step hsource hstep

/-- Two calls in the protected region of one scope hold the same lock. -/
theorem Consistent.same_lock (hinv : Consistent table) {first second : Nat}
    {call other : KeyCall Scope} {lock taken : Nat}
    (hfirst : table.calls[first]? = some call) (hsecond : table.calls[second]? = some other)
    (hscope : call.scope = other.scope) (hlock : call.phase.held? = some lock)
    (htaken : other.phase.held? = some taken) : lock = taken := by
  have hmine := hinv.lock first call lock hfirst (LockPhase.lock?_of_held? hlock)
  have htheirs := hinv.lock second other taken hsecond (LockPhase.lock?_of_held? htaken)
  rw [hscope, htheirs] at hmine
  exact (Option.some.inj hmine).symm

/-- One thread at a time is in the protected region of a scope. -/
theorem one_thread_inside (hreach : (system Scope).Reachable table) {first second : Nat}
    {call other : KeyCall Scope} {lock taken : Nat}
    (hfirst : table.calls[first]? = some call) (hsecond : table.calls[second]? = some other)
    (hscope : call.scope = other.scope) (hlock : call.phase.held? = some lock)
    (htaken : other.phase.held? = some taken) : call.thread = other.thread := by
  have hsame := (consistent_of_reachable hreach).same_lock hfirst hsecond hscope hlock htaken
  have howned := owned_of_reachable hreach
  have hmine := howned.owner first call lock hfirst hlock
  have htheirs := howned.owner second other taken hsecond htaken
  rw [hsame, htheirs] at hmine
  exact (Option.some.inj hmine).symm

end LockTable

end DataSluice.Sync
