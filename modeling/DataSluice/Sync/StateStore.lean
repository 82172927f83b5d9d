/-
# Compare-and-swap on the file state store

One key of `FileStateStore` is one file. `conditional_put` compares the hash of
its bytes with the hash of the caller's version and renames over it, both inside
the per-key lock. `put` without a version and `delete` mutate the same file and
take no lock.

A thread of some local process runs one call at a time. The per-key `RLock` and
the advisory file lock are together one lock that is re-entrant for its thread:
sync transactions hold it around their calls. Every read, rename and removal is a
step of its own and may fail instead. `returned` is a record kept for the
statements: what every `conditional_put` that returned was given and replaced.
-/

import Mathlib.Logic.Function.Basic
import DataSluice.Lib.Transition

namespace DataSluice.Sync

open DataSluice.Lib

/-- The content of a file. -/
abbrev Bytes := List UInt8

/-- Where the call of a thread stands. The version a caller expects is the bytes
it read, or nothing when it found no file. -/
inductive StorePhase
  | idle
  | waiting (expected : Option Bytes) (payload : Bytes)
  | reading (expected : Option Bytes) (payload : Bytes)
  | publishing (expected : Option Bytes) (payload : Bytes)
  | committed (expected replaced : Option Bytes)
  | raising
  | putting (payload : Bytes)
  | deleting
  deriving DecidableEq

/-- Inside the `with` block of the per-key lock of `conditional_put`. -/
def StorePhase.locked : StorePhase → Bool
  | .reading .. | .publishing .. | .committed .. | .raising => true
  | _ => false

/-- A `conditional_put` that returned. -/
structure CasReturn where
  expected : Option Bytes
  replaced : Option Bytes
  deriving DecidableEq

/-- The file of one key, its lock, and the calls on it. -/
structure StateFile where
  disk : Option Bytes
  owner : Option Nat
  depth : Nat
  phases : Nat → StorePhase
  returned : List CasReturn

/-- The scheduler's choices, each for one thread. -/
inductive StoreEvent
  | lockKey (thread : Nat)
  | unlockKey (thread : Nat)
  | conditionalPut (thread : Nat) (expected : Option Bytes) (payload : Bytes)
  | put (thread : Nat) (payload : Bytes)
  | delete (thread : Nat)
  | acquire (thread : Nat)
  | compare (thread : Nat)
  | move (thread : Nat)
  | remove (thread : Nat)
  | fail (thread : Nat)
  | release (thread : Nat)

namespace StateFile

/-- The per-key lock is free, or this thread holds it already. -/
def available (file : StateFile) (thread : Nat) : Bool :=
  decide (file.owner = none ∨ file.owner = some thread)

/-- Put one thread's call into a new phase. -/
def goto (file : StateFile) (thread : Nat) (phase : StorePhase) : StateFile :=
  { file with phases := Function.update file.phases thread phase }

@[simp] theorem phases_goto_self (file : StateFile) (thread : Nat) (phase : StorePhase) :
    (file.goto thread phase).phases thread = phase := by
  simp [goto]

theorem phases_goto_of_ne {file : StateFile} {thread other : Nat} {phase : StorePhase}
    (hne : other ≠ thread) : (file.goto thread phase).phases other = file.phases other := by
  simp [goto, hne]

/-- Take the lock once more. -/
def lock (file : StateFile) (thread : Nat) : StateFile :=
  { file with owner := some thread, depth := file.depth + 1 }

/-- Give the lock back once; the last time frees it. -/
def unlock (file : StateFile) : StateFile :=
  { file with
    owner := if file.depth ≤ 1 then none else file.owner
    depth := file.depth - 1 }

variable {Digest : Type} [DecidableEq Digest] (sha256 : Bytes → Digest)

/-- The version check of `conditional_put`: absence is hashed as no bytes. -/
def sameVersion (expected actual : Option Bytes) : Bool :=
  decide (sha256 (actual.getD []) = sha256 (expected.getD []))

/-- One scheduled step. -/
def step (file : StateFile) : StoreEvent → Option StateFile
  | .lockKey thread =>
      if file.phases thread = .idle ∧ file.available thread = true then
        some (file.lock thread)
      else none
  | .unlockKey thread =>
      if file.phases thread = .idle ∧ file.owner = some thread then some file.unlock else none
  | .conditionalPut thread expected payload =>
      if file.phases thread = .idle then some (file.goto thread (.waiting expected payload))
      else none
  | .put thread payload =>
      if file.phases thread = .idle then some (file.goto thread (.putting payload)) else none
  | .delete thread =>
      if file.phases thread = .idle then some (file.goto thread .deleting) else none
  | .acquire thread =>
      match file.phases thread with
      | .waiting expected payload =>
          if file.available thread = true then
            some ((file.lock thread).goto thread (.reading expected payload))
          else none
      | _ => none
  | .compare thread =>
      match file.phases thread with
      | .reading expected payload =>
          if sameVersion sha256 expected file.disk = true then
            some (file.goto thread (.publishing expected payload))
          else some (file.goto thread .raising)
      | _ => none
  | .move thread =>
      match file.phases thread with
      | .publishing expected payload =>
          some { file.goto thread (.committed expected file.disk) with disk := some payload }
      | .putting payload => some { file.goto thread .idle with disk := some payload }
      | _ => none
  | .remove thread =>
      match file.phases thread with
      | .deleting => some { file.goto thread .idle with disk := none }
      | _ => none
  | .fail thread =>
      match file.phases thread with
      | .reading .. | .publishing .. => some (file.goto thread .raising)
      | .putting _ | .deleting => some (file.goto thread .idle)
      | _ => none
  | .release thread =>
      match file.phases thread with
      | .committed expected replaced =>
          some { file.unlock.goto thread .idle with
            returned := ⟨expected, replaced⟩ :: file.returned }
      | .raising => some (file.unlock.goto thread .idle)
      | _ => none

/-- A key on which no call has been made yet, with any file or none. -/
def untouched (disk : Option Bytes) : StateFile where
  disk := disk
  owner := none
  depth := 0
  phases _ := .idle
  returned := []

/-- The interleavings of calls on one key. -/
def system : System StateFile StoreEvent where
  init file := ∃ disk, file = untouched disk
  step := step sha256

/-! ## The lock keeps versions in place -/

/-- What holds between the steps of calls. -/
structure CasOk (file : StateFile) : Prop where
  owner : ∀ thread, (file.phases thread).locked = true → file.owner = some thread
  version : ∀ thread expected payload, file.phases thread = .publishing expected payload →
    file.disk = expected
  replaced : ∀ thread expected replaced, file.phases thread = .committed expected replaced →
    replaced = expected
  returned : ∀ entry ∈ file.returned, entry.replaced = entry.expected

/-- Neither of the two ways a version check can be deceived. No write without a
version and no removal changes the file between the check and the rename of a
`conditional_put`; and the check does not meet an empty file where none is
expected, or no file where an empty one is. -/
def KeepsVersion (file : StateFile) : StoreEvent → Prop
  | .compare thread =>
      ∀ expected payload, file.phases thread = .reading expected payload →
        ¬ (expected = none ∧ file.disk = some []) ∧ ¬ (expected = some [] ∧ file.disk = none)
  | .move thread =>
      ∀ payload, file.phases thread = .putting payload →
        ∀ other expected staged, file.phases other = .publishing expected staged →
          file.disk = some payload
  | .remove _ =>
      ∀ other expected staged, file.phases other = .publishing expected staged →
        file.disk = none
  | _ => True

theorem CasOk.goto {file : StateFile} {thread : Nat} {phase : StorePhase} (hok : CasOk file)
    (howner : phase.locked = true → file.owner = some thread)
    (hversion : ∀ expected payload, phase = .publishing expected payload → file.disk = expected)
    (hreplaced : ∀ expected replaced, phase = .committed expected replaced →
      replaced = expected) : CasOk (file.goto thread phase) where
  owner other hlocked := by
    by_cases hother : other = thread
    · subst hother
      rw [phases_goto_self] at hlocked
      exact howner hlocked
    · rw [phases_goto_of_ne hother] at hlocked
      exact hok.owner other hlocked
  version other expected payload hphase := by
    by_cases hother : other = thread
    · subst hother
      rw [phases_goto_self] at hphase
      exact hversion expected payload hphase
    · rw [phases_goto_of_ne hother] at hphase
      exact hok.version other expected payload hphase
  replaced other expected replaced hphase := by
    by_cases hother : other = thread
    · subst hother
      rw [phases_goto_self] at hphase
      exact hreplaced expected replaced hphase
    · rw [phases_goto_of_ne hother] at hphase
      exact hok.replaced other expected replaced hphase
  returned := hok.returned

/-- A phase outside the lock says nothing about the file. -/
theorem CasOk.goto_unlocked {file : StateFile} (hok : CasOk file) (thread : Nat)
    (phase : StorePhase) (hphase : phase.locked = false) : CasOk (file.goto thread phase) := by
  refine hok.goto ?_ ?_ ?_
  · intro hlocked
    rw [hphase] at hlocked
    cases hlocked
  · rintro expected payload rfl
    cases hphase
  · rintro expected replaced rfl
    cases hphase

theorem CasOk.lock {file : StateFile} {thread : Nat} (hok : CasOk file)
    (havailable : file.available thread = true) : CasOk (file.lock thread) where
  owner other hlocked := by
    have howner := hok.owner other hlocked
    rcases of_decide_eq_true havailable with hnone | hself
    · rw [hnone] at howner
      cases howner
    · exact hself.symm.trans howner
  version := hok.version
  replaced := hok.replaced
  returned := hok.returned

theorem CasOk.unlock {file : StateFile} (hok : CasOk file)
    (hfree : ∀ thread, (file.phases thread).locked = false) : CasOk file.unlock where
  owner other hlocked := by
    have hnone : (file.phases other).locked = true := hlocked
    rw [hfree other] at hnone
    cases hnone
  version := hok.version
  replaced := hok.replaced
  returned := hok.returned

/-- A step on the file is harmless when no checked version is awaiting its rename,
or the bytes stay what they are. -/
theorem CasOk.write {file : StateFile} (hok : CasOk file) (disk : Option Bytes)
    (hkeep : ∀ other expected staged, file.phases other = .publishing expected staged →
      file.disk = disk) : CasOk { file with disk := disk } where
  owner := hok.owner
  version other expected staged hphase :=
    (hkeep other expected staged hphase).symm.trans (hok.version other expected staged hphase)
  replaced := hok.replaced
  returned := hok.returned

/-- A write or removal outside the lock, which ends its call. -/
theorem CasOk.write_unlocked {file : StateFile} (hok : CasOk file) (thread : Nat)
    (disk : Option Bytes)
    (hkeep : ∀ other expected staged, file.phases other = .publishing expected staged →
      file.disk = disk) : CasOk { file.goto thread .idle with disk := disk } := by
  refine (hok.goto_unlocked thread .idle rfl).write disk ?_
  intro other expected staged hpublishing
  by_cases hother : other = thread
  · rw [hother, phases_goto_self] at hpublishing
    cases hpublishing
  · rw [phases_goto_of_ne hother] at hpublishing
    exact hkeep other expected staged hpublishing

/-- An error inside the lock, a failed version check included. -/
theorem CasOk.raise {file : StateFile} {thread : Nat} (hok : CasOk file)
    (hlocked : (file.phases thread).locked = true) : CasOk (file.goto thread .raising) := by
  refine hok.goto (fun _ => hok.owner thread hlocked) ?_ ?_
  · intro expected payload hphase
    cases hphase
  · intro expected replaced hphase
    cases hphase

/-- While a thread is idle and holds the lock, or leaves it, no other thread is
inside. -/
theorem unlocked_of_owner {file : StateFile} {thread : Nat} (hok : CasOk file)
    (howner : file.owner = some thread) (other : Nat) (hother : other ≠ thread) :
    (file.phases other).locked = false := by
  by_contra hlocked
  have hheld := hok.owner other (by simpa using hlocked)
  rw [howner] at hheld
  exact hother (Option.some.inj hheld).symm

theorem CasOk.release {file : StateFile} {thread : Nat} (hok : CasOk file)
    (hlocked : (file.phases thread).locked = true) :
    CasOk (file.unlock.goto thread .idle) := by
  have hidle := hok.goto_unlocked thread .idle rfl
  refine hidle.unlock fun other => ?_
  by_cases hother : other = thread
  · rw [hother, phases_goto_self]
    rfl
  · rw [phases_goto_of_ne hother]
    exact unlocked_of_owner hok (hok.owner thread hlocked) other hother

/-- Equal hashes mean equal versions once absence and the empty file are not
confused. -/
theorem disk_eq_of_sameVersion {Digest : Type} [DecidableEq Digest] {sha256 : Bytes → Digest}
    (hsha : Function.Injective sha256) {expected disk : Option Bytes}
    (hsame : sameVersion sha256 expected disk = true)
    (habsent : ¬ (expected = none ∧ disk = some []))
    (hempty : ¬ (expected = some [] ∧ disk = none)) : disk = expected := by
  have hbytes := hsha (of_decide_eq_true hsame)
  cases expected with
  | none =>
      cases disk with
      | none => rfl
      | some bytes => exact absurd ⟨rfl, congrArg some hbytes⟩ habsent
  | some version =>
      cases disk with
      | none => exact absurd ⟨congrArg some hbytes.symm, rfl⟩ hempty
      | some bytes => exact congrArg some hbytes

variable {sha256}

theorem CasOk.step (hsha : Function.Injective sha256) {file next : StateFile}
    {event : StoreEvent} (hok : CasOk file) (hkeeps : file.KeepsVersion event)
    (hstep : file.step sha256 event = some next) : CasOk next := by
  cases event with
  | lockKey thread =>
      simp only [StateFile.step, Option.ite_none_right_eq_some] at hstep
      obtain ⟨⟨-, havailable⟩, hnext⟩ := hstep
      cases hnext
      exact hok.lock havailable
  | unlockKey thread =>
      simp only [StateFile.step, Option.ite_none_right_eq_some] at hstep
      obtain ⟨⟨hidle, howner⟩, hnext⟩ := hstep
      cases hnext
      refine hok.unlock fun other => ?_
      by_cases hother : other = thread
      · rw [hother, hidle]
        rfl
      · exact unlocked_of_owner hok howner other hother
  | conditionalPut thread expected payload =>
      simp only [StateFile.step, Option.ite_none_right_eq_some] at hstep
      cases hstep.2
      exact hok.goto_unlocked thread _ rfl
  | put thread payload =>
      simp only [StateFile.step, Option.ite_none_right_eq_some] at hstep
      cases hstep.2
      exact hok.goto_unlocked thread _ rfl
  | delete thread =>
      simp only [StateFile.step, Option.ite_none_right_eq_some] at hstep
      cases hstep.2
      exact hok.goto_unlocked thread _ rfl
  | acquire thread =>
      simp only [StateFile.step] at hstep
      split at hstep
      · simp only [Option.ite_none_right_eq_some] at hstep
        obtain ⟨havailable, hnext⟩ := hstep
        cases hnext
        refine (hok.lock havailable).goto (fun _ => rfl) ?_ ?_
        · intro expected payload hphase
          cases hphase
        · intro expected replaced hphase
          cases hphase
      · cases hstep
  | compare thread =>
      simp only [StateFile.step] at hstep
      split at hstep
      · rename_i expected payload hphase
        have howner : file.owner = some thread := hok.owner thread (by rw [hphase]; rfl)
        obtain ⟨habsent, hempty⟩ := hkeeps expected payload hphase
        split at hstep
        · rename_i hsame
          cases hstep
          refine hok.goto (fun _ => howner) ?_ ?_
          · intro version staged hpublishing
            cases hpublishing
            exact disk_eq_of_sameVersion hsha hsame habsent hempty
          · intro version replaced hcommitted
            cases hcommitted
        · cases hstep
          exact hok.raise (by rw [hphase]; rfl)
      · cases hstep
  | move thread =>
      simp only [StateFile.step] at hstep
      split at hstep
      · rename_i expected payload hphase
        have howner : file.owner = some thread := hok.owner thread (by rw [hphase]; rfl)
        cases hstep
        have hcommitted : CasOk (file.goto thread (.committed expected file.disk)) := by
          refine hok.goto (fun _ => howner) ?_ ?_
          · intro version staged hpublishing
            cases hpublishing
          · intro version replaced hphases
            cases hphases
            exact hok.version thread expected payload hphase
        refine hcommitted.write (some payload) ?_
        intro other version staged hpublishing
        by_cases hother : other = thread
        · rw [hother, phases_goto_self] at hpublishing
          cases hpublishing
        · rw [phases_goto_of_ne hother] at hpublishing
          have hlocked := unlocked_of_owner hok howner other hother
          rw [hpublishing] at hlocked
          cases hlocked
      · rename_i payload hphase
        cases hstep
        exact hok.write_unlocked thread (some payload) (hkeeps payload hphase)
      · cases hstep
  | remove thread =>
      simp only [StateFile.step] at hstep
      split at hstep
      · cases hstep
        exact hok.write_unlocked thread none hkeeps
      · cases hstep
  | fail thread =>
      simp only [StateFile.step] at hstep
      split at hstep
      · rename_i hphase
        cases hstep
        exact hok.raise (by rw [hphase]; rfl)
      · rename_i hphase
        cases hstep
        exact hok.raise (by rw [hphase]; rfl)
      · cases hstep
        exact hok.goto_unlocked thread .idle rfl
      · cases hstep
        exact hok.goto_unlocked thread .idle rfl
      · cases hstep
  | release thread =>
      simp only [StateFile.step] at hstep
      split at hstep
      · rename_i expected replaced hphase
        cases hstep
        have hreleased := hok.release (by rw [hphase]; rfl : (file.phases thread).locked = true)
        refine ⟨hreleased.owner, hreleased.version, hreleased.replaced, ?_⟩
        intro entry hentry
        rcases List.mem_cons.mp hentry with rfl | hearlier
        · exact hok.replaced thread expected replaced hphase
        · exact hok.returned entry hearlier
      · rename_i hphase
        cases hstep
        exact hok.release (by rw [hphase]; rfl)
      · cases hstep

/-- In every run whose steps keep checked versions in place, every
`conditional_put` that returned replaced exactly the version it was given. -/
theorem conditionalPut_replaces_expected (hsha : Function.Injective sha256) :
    ∀ file, (system sha256).ReachableUnder KeepsVersion file →
      ∀ entry ∈ file.returned, entry.replaced = entry.expected := by
  intro file hreach
  have hok : CasOk file := by
    refine hreach.invariant ?_ (fun _ _ _ => CasOk.step hsha)
    rintro _ ⟨disk, rfl⟩
    refine ⟨?_, ?_, ?_, ?_⟩
    · intro thread hlocked
      cases hlocked
    · intro thread expected payload hphase
      cases hphase
    · intro thread expected replaced hphase
      cases hphase
    · intro entry hentry
      cases hentry
  exact hok.returned

/-- The serialised form of a state that records only when it was synced. -/
def syncedEnvelope (lastSyncedAt : String) : Bytes :=
  ("\x7b\"schema_version\": 1, \"state\": \x7b\"cursor\": \x7b\x7d, \"extra\": \x7b\x7d, " ++
    "\"last_synced_at\": " ++ lastSyncedAt ++ ", \"partitions\": \x7b\x7d\x7d\x7d").toUTF8.toList

/-- One thread creates the file and a second one, given that version, replaces it.
The hash is the identity. -/
theorem conditionalPut_chain_replaces_expected :
    ∃ file, (system (fun bytes : Bytes => bytes)).ReachableUnder KeepsVersion file ∧
      file.returned = [⟨some (syncedEnvelope "null"), some (syncedEnvelope "null")⟩,
        ⟨none, none⟩] ∧
      ∀ entry ∈ file.returned, entry.replaced = entry.expected := by
  let first := syncedEnvelope "null"
  let second := syncedEnvelope "\"2026-01-01T00:00:00+00:00\""
  have hstart : (system (fun bytes : Bytes => bytes)).ReachableUnder KeepsVersion
      (untouched none) := .start ⟨none, rfl⟩
  have hwaiting := hstart.take (.conditionalPut 1 none first) trivial (by decide +kernel)
  have hlocked := hwaiting.take (.acquire 1) trivial (by decide +kernel)
  have hchecked := hlocked.take (.compare 1)
    (fun _ _ hphase => by cases hphase; decide +kernel) (by decide +kernel)
  have hmoved := hchecked.take (.move 1) (fun _ hphase => by cases hphase) (by decide +kernel)
  have hcreated := hmoved.take (.release 1) trivial (by decide +kernel)
  have hqueued := hcreated.take (.conditionalPut 2 (some first) second) trivial
    (by decide +kernel)
  have hsecond := hqueued.take (.acquire 2) trivial (by decide +kernel)
  have hagain := hsecond.take (.compare 2)
    (fun _ _ hphase => by cases hphase; decide +kernel) (by decide +kernel)
  have hreplaced := hagain.take (.move 2)
    (fun _ hphase => by
      cases hphase.symm.trans (by decide +kernel : _ = StorePhase.publishing (some first) second))
    (by decide +kernel)
  have hdone := hreplaced.take (.release 2) trivial (by decide +kernel)
  exact ⟨_, hdone, by decide +kernel,
    conditionalPut_replaces_expected Function.injective_id _ hdone⟩

/-- A thread has compared its version, no file, and is about to rename. Another
thread's `put` without a version, which takes no lock, creates the file; the
rename then replaces it and the call returns. -/
theorem conditionalPut_overwrites_foreign_put :
    ¬ ∀ file, (system (fun bytes : Bytes => bytes)).Reachable file →
      ∀ entry ∈ file.returned, entry.replaced = entry.expected := by
  intro hclaim
  let first := syncedEnvelope "null"
  let second := syncedEnvelope "\"2026-01-01T00:00:00+00:00\""
  obtain ⟨file, hreach, htest⟩ := (system (fun bytes : Bytes => bytes)).exists_reachable_of_run
    (untouched none) ⟨none, rfl⟩
    [ .conditionalPut 1 none first, .acquire 1, .compare 1
    , .put 2 second, .move 2
    , .move 1, .release 1 ]
    (fun file => decide (⟨none, some second⟩ ∈ file.returned))
    (by decide +kernel)
  have hsame := hclaim file hreach _ (of_decide_eq_true htest)
  cases hsame

end StateFile

end DataSluice.Sync
