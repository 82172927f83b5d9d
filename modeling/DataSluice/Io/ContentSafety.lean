/-
# What the content cache returns

A row of a reachable table was committed by the last `put` for its key, and its content file,
when it is there, holds what has the digest of that row. So a `get` returns nothing or the
payload that was the latest one when it read the row. The steps of a `put` before its commit
change no row and take no file away.

That a row has a content file is another matter. A delete and a sweep decide that a file is not
referenced and remove it later, and nothing keeps a `put` of the same payload from publishing and
committing in between.
-/

import DataSluice.Io.ContentCache

namespace DataSluice.Io.Store

open DataSluice.Lib

variable {Digest : Type} [DecidableEq Digest] {digest : Bytes → Digest}
  {store next : Store digest}

/-! ## What is returned -/

/-- A row was committed by the last `put` for a key. -/
def RowCommitted (store : Store digest) (sha : Digest) (row : Row Digest) : Prop :=
  ∃ key data, sha = digest (encodeKey key) ∧ store.latest key = some data ∧
    row.contentSha = some (digest data)

/-- A call of `get` will return, or has returned, the payload of the last `put` that was
committed when it read its row. -/
def PhaseCommitted (digest : Bytes → Digest) : CachePhase Digest → Prop
  | .getReading _ content latest => ∃ data, latest = some data ∧ content = digest data
  | .getReturned _ (some data) latest => latest = some data
  | _ => True

/-- What holds in every state of a run. -/
structure Committed (store : Store digest) : Prop where
  rows : ∀ sha row, (sha, row) ∈ store.rows → store.RowCommitted sha row
  calls : ∀ call, PhaseCommitted digest (store.calls call)

omit [DecidableEq Digest] in
/-- A step that moves one activity on and commits nothing. -/
theorem Committed.move (hcommitted : store.Committed) {call : Nat} {phase : CachePhase Digest}
    (hcalls : next.calls = Function.update store.calls call phase)
    (hlatest : next.latest = store.latest)
    (hrows : ∀ entry, entry ∈ next.rows → entry ∈ store.rows)
    (hphase : PhaseCommitted digest phase) : next.Committed where
  rows sha row hmem := by
    obtain ⟨key, data, hsha, hdata, hcontent⟩ := hcommitted.rows sha row (hrows _ hmem)
    exact ⟨key, data, hsha, hlatest ▸ hdata, hcontent⟩
  calls other := by
    rw [hcalls]
    by_cases hother : other = call
    · rw [hother, Function.update_self]
      exact hphase
    · rw [Function.update_of_ne hother]
      exact hcommitted.calls other

/-- The content of a live row is that of the last `put` for the key. -/
theorem Committed.liveContent (hcommitted : store.Committed)
    (hinjective : Function.Injective digest) {ttl : ℚ} {key : String} {content : Digest}
    (hlive : store.liveContent ttl key = some content) :
    ∃ data, store.latest key = some data ∧ content = digest data := by
  unfold Store.liveContent at hlive
  split at hlive
  · cases hlive
  · rename_i row hrow
    split at hlive
    · cases hlive
    · obtain ⟨found, data, hsha, hdata, hcontent⟩ := hcommitted.rows _ row (mem_of_rowOf hrow)
      have hkey : key = found := encodeKey_injective (hinjective hsha)
      rw [hcontent] at hlive
      cases hlive
      exact ⟨data, hkey ▸ hdata, rfl⟩

theorem Committed.commit (hcommitted : store.Committed) {call : Nat} (put : Put) :
    Committed { store.goto call .ended with
      rows := replaceRow store.rows (keySha digest put.key) (rowOfPut digest put)
      latest := Function.update store.latest put.key (some put.data) } where
  rows sha row hmem := by
    rcases mem_replaceRow hmem with ⟨rfl, rfl⟩ | ⟨hne, hold⟩
    · exact ⟨put.key, put.data, rfl, Function.update_self _ _ _, rfl⟩
    · obtain ⟨key, data, hsha, hdata, hcontent⟩ := hcommitted.rows sha row hold
      have hkey : key ≠ put.key := by
        rintro rfl
        exact hne hsha
      exact ⟨key, data, hsha, (Function.update_of_ne hkey _ _).trans hdata, hcontent⟩
  calls other := by
    show PhaseCommitted digest (Function.update store.calls call .ended other)
    by_cases hother : other = call
    · rw [hother, Function.update_self]
      exact trivial
    · rw [Function.update_of_ne hother]
      exact hcommitted.calls other

theorem Committed.step (hcommitted : store.Committed) (hinjective : Function.Injective digest)
    {event : CacheEvent Digest} (hstep : store.step event = some next) : next.Committed := by
  cases event with
  | tick now =>
      cases hstep
      exact ⟨hcommitted.rows, hcommitted.calls⟩
  | put | stage | publish | delete | deleteRemove | get | sweepList | sweepSettle =>
      simp only [Store.step] at hstep
      split at hstep
      · cases hstep
        exact hcommitted.move rfl rfl (fun _ h => h) trivial
      · cases hstep
  | commit call =>
      simp only [Store.step] at hstep
      split at hstep
      · rename_i put _
        cases hstep
        exact hcommitted.commit put
      · cases hstep
  | deleteRow call =>
      simp only [Store.step] at hstep
      split at hstep
      · cases hstep
        exact hcommitted.move rfl rfl (fun _ h => (List.mem_filter.mp h).1) trivial
      · cases hstep
  | deleteCheck | sweep =>
      simp only [Store.step] at hstep
      split at hstep
      · split at hstep
        all_goals cases hstep
        all_goals exact hcommitted.move rfl rfl (fun _ h => h) trivial
      · cases hstep
  | select call =>
      simp only [Store.step] at hstep
      split at hstep
      · split at hstep
        · cases hstep
          exact hcommitted.move rfl rfl (fun _ h => h) trivial
        · rename_i content hlive
          cases hstep
          obtain ⟨data, hdata, hcontent⟩ := hcommitted.liveContent hinjective hlive
          exact hcommitted.move rfl rfl (fun _ h => h) ⟨data, hdata, hcontent⟩
      · cases hstep
  | read call =>
      simp only [Store.step] at hstep
      split at hstep
      · rename_i key content latest hreading
        cases hstep
        have hphase := hcommitted.calls call
        rw [hreading] at hphase
        obtain ⟨data, rfl, rfl⟩ := hphase
        refine hcommitted.move rfl rfl (fun _ h => h) ?_
        cases hfile : store.files.file (digest data) with
        | none => exact trivial
        | some found =>
            show some data = some found
            rw [hinjective (store.files.named _ found hfile)]
      · cases hstep
  | sweepTransaction call =>
      simp only [Store.step] at hstep
      split at hstep
      · cases hstep
        exact hcommitted.move rfl rfl (fun _ h => (List.mem_filter.mp h).1) trivial
      · cases hstep
  | sweepRemove call content =>
      simp only [Store.step] at hstep
      split at hstep
      · simp only [Option.ite_none_right_eq_some] at hstep
        cases hstep.2
        exact hcommitted.move rfl rfl (fun _ h => h) trivial
      · cases hstep
  | stop call =>
      cases hstep
      exact hcommitted.move rfl rfl (fun _ h => h) trivial

omit [DecidableEq Digest] in
theorem Committed.fresh (digest : Bytes → Digest) (ttl : Nat → ℚ) (clock : ℚ) :
    (Store.fresh digest ttl clock).Committed where
  rows _ _ hmem := by cases hmem
  calls _ := trivial

/-! ## A `put` that does not commit -/

/-- The steps of a `put` before its commit, its failure and its crash among them. -/
def BeforeCommit (store : Store digest) : CacheEvent Digest → Prop
  | .put _ _ _ _ _ | .stage _ | .publish _ => True
  | .stop call => ∃ put, store.calls call = .putStarted put ∨ store.calls call = .putStaged put ∨
      store.calls call = .putPublished put
  | _ => False

/-- What is readable stays readable with its bytes when a `put` takes a step that is not its
commit. -/
theorem readable_of_beforeCommit (hinjective : Function.Injective digest)
    {event : CacheEvent Digest} (hbefore : store.BeforeCommit event)
    (hstep : store.step event = some next) {ttl : ℚ} {key : String} {data : Bytes}
    (hreadable : store.readable ttl key = some data) : next.readable ttl key = some data := by
  cases event with
  | put | stage =>
      simp only [Store.step] at hstep
      split at hstep
      · cases hstep
        exact hreadable
      · cases hstep
  | publish call =>
      simp only [Store.step] at hstep
      split at hstep
      · rename_i put _
        cases hstep
        simp only [readable, Option.bind_eq_some_iff] at hreadable ⊢
        obtain ⟨content, hlive, hfile⟩ := hreadable
        exact ⟨content, hlive, store.files.publish_of_file hinjective put.data hfile⟩
      · cases hstep
  | stop call =>
      cases hstep
      exact hreadable
  | tick | commit | delete | deleteRow | deleteCheck | deleteRemove | get | select | read | sweep
  | sweepList | sweepTransaction | sweepSettle | sweepRemove => exact hbefore.elim

/-- In every run, a `get` returns nothing or exactly the payload of the last `put` for its key
that was committed when it read the row, and a step of a `put` before its commit leaves every
entry readable that was readable, with the same bytes. -/
theorem returns_latest_put (digest : Bytes → Digest) (hinjective : Function.Injective digest) :
    ∀ store, (system digest).Reachable store →
      (∀ call key data latest, store.calls call = .getReturned key (some data) latest →
        latest = some data) ∧
      (∀ event next, store.BeforeCommit event → store.step event = some next →
        ∀ ttl key data, store.readable ttl key = some data →
          next.readable ttl key = some data) := by
  intro store hreach
  have hcommitted : store.Committed := by
    apply hreach.invariant
    · rintro _ ⟨ttl, clock, rfl⟩
      exact Committed.fresh digest ttl clock
    · intro source event target hcommitted _ hstep
      exact hcommitted.step hinjective hstep
  constructor
  · intro call key data latest hreturned
    have hphase := hcommitted.calls call
    rw [hreturned] at hphase
    exact hphase
  · intro event next hbefore hstep ttl key data hreadable
    exact readable_of_beforeCommit hinjective hbefore hstep hreadable

/-- A payload is put under a key. -/
def putRun (call : Nat) (key : String) (data : Bytes) : List (CacheEvent Bytes) :=
  [.put call key data none none, .stage call, .publish call, .commit call]

/-- A payload that was put is got, as the latest one. -/
theorem returns_payload_put :
    ∃ store, (system (id : Bytes → Bytes)).Reachable store ∧ ∃ latest,
      store.calls 1 = .getReturned "a" (some [1]) latest ∧ latest = some [1] := by
  obtain ⟨store, hreach, htest⟩ := (system (id : Bytes → Bytes)).exists_reachable_of_run
    (Store.fresh id (fun _ => 10) 0) ⟨_, _, rfl⟩
    (putRun 0 "a" [1] ++ [.get 1 0 "a", .select 1, .read 1])
    (fun store => match store.calls 1 with
      | .getReturned key data _ => decide (key = "a" ∧ data = some [1])
      | _ => false) (by decide +kernel)
  cases hcall : store.calls 1 with
  | getReturned key data latest =>
      simp only [hcall, decide_eq_true_eq] at htest
      obtain ⟨rfl, rfl⟩ := htest
      have hlatest := (returns_latest_put id Function.injective_id store hreach).1 1 "a" [1] latest
        hcall
      exact ⟨store, hreach, latest, hcall, hlatest⟩
  | _ => simp [hcall] at htest

/-! ## What stays there -/

omit [DecidableEq Digest] in
theorem goto_calls_of_ne (store : Store digest) {call other : Nat}
    (hne : some call ≠ some other) (phase : CachePhase Digest) :
    (store.goto call phase).calls other = store.calls other :=
  Function.update_of_ne (fun h => hne (congrArg some h.symm)) _ _

/-- A step leaves every activity but the one its event names where it was: activities meet in
the table and in the files, never in each other's phases. -/
theorem calls_of_step {event : CacheEvent Digest} (hstep : store.step event = some next)
    {other : Nat} (hother : event.call ≠ some other) : next.calls other = store.calls other := by
  cases event with
  | tick now =>
      cases hstep
      rfl
  | stop call =>
      cases hstep
      exact store.goto_calls_of_ne hother _
  | put call | stage call | publish call | commit call | delete call | deleteRow call
  | deleteRemove call | get call | read call | sweepList call | sweepTransaction call
  | sweepSettle call =>
      simp only [Store.step] at hstep
      split at hstep
      · cases hstep
        exact store.goto_calls_of_ne hother _
      · cases hstep
  | deleteCheck call | select call | sweep call | sweepRemove call =>
      simp only [Store.step] at hstep
      split at hstep
      · split at hstep
        all_goals cases hstep
        all_goals exact store.goto_calls_of_ne hother _
      · cases hstep

/-- So does a run with the activities that none of its events names. -/
theorem calls_of_run {source target : Store digest} {events : List (CacheEvent Digest)}
    (hrun : (system digest).run source events = some target) {other : Nat}
    (hother : ∀ event ∈ events, event.call ≠ some other) :
    target.calls other = source.calls other := by
  induction events generalizing source with
  | nil =>
      cases hrun
      rfl
  | cons event events ih =>
      simp only [System.run, Option.bind_eq_some_iff] at hrun
      obtain ⟨middle, hstep, hrest⟩ := hrun
      calc target.calls other
        _ = middle.calls other := ih hrest fun later hlater => hother later (.tail _ hlater)
        _ = source.calls other := calls_of_step hstep (hother event (.head _))

/-- No row references a content file, and no `put` has published it without having come to its
end. -/
def Unneeded (store : Store digest) (content : Digest) : Prop :=
  referenced store.rows content = false ∧
    ∀ call put, store.calls call = .putPublished put → digest put.data ≠ content

/-- A file that is removed, by a delete or by a sweep, is not needed at that moment. -/
def RemovesUnneeded (store : Store digest) : CacheEvent Digest → Prop
  | .deleteRemove call => ∀ content, store.calls call = .deleteRemoving content →
      store.Unneeded content
  | .sweepRemove _ content => store.Unneeded content
  | _ => True

/-- A content file is there. -/
def HasFile (store : Store digest) (content : Digest) : Prop :=
  (store.files.file content).isSome = true

/-- Every row has its content file, and so has every `put` that is about to commit. -/
structure Complete (store : Store digest) : Prop where
  rows : ∀ sha row, (sha, row) ∈ store.rows →
    ∃ content, row.contentSha = some content ∧ store.HasFile content
  published : ∀ call put, store.calls call = .putPublished put → store.HasFile (digest put.data)

omit [DecidableEq Digest] in
/-- A step that moves one activity on to a phase other than the one before a commit, adds no
row and removes no file. -/
theorem Complete.move (hcomplete : store.Complete) {call : Nat} {phase : CachePhase Digest}
    (hcalls : next.calls = Function.update store.calls call phase)
    (hrows : ∀ entry, entry ∈ next.rows → entry ∈ store.rows)
    (hfiles : ∀ content, store.HasFile content → next.HasFile content)
    (hphase : ∀ put, phase = .putPublished put → next.HasFile (digest put.data)) :
    next.Complete where
  rows sha row hmem := by
    obtain ⟨content, hcontent, hfile⟩ := hcomplete.rows sha row (hrows _ hmem)
    exact ⟨content, hcontent, hfiles content hfile⟩
  published other put hpublished := by
    rw [hcalls] at hpublished
    by_cases hother : other = call
    · rw [hother, Function.update_self] at hpublished
      exact hphase put hpublished
    · rw [Function.update_of_ne hother] at hpublished
      exact hfiles _ (hcomplete.published other put hpublished)

/-- A file that is not needed is removed. -/
theorem Complete.remove (hcomplete : store.Complete) {content : Digest}
    (hunneeded : store.Unneeded content) {call : Nat} {phase : CachePhase Digest}
    (hphase : ∀ put, phase ≠ .putPublished put) :
    Complete { store.goto call phase with files := store.files.remove content } where
  rows sha row hmem := by
    obtain ⟨found, hfound, hfile⟩ := hcomplete.rows sha row hmem
    have hne : found ≠ content := by
      rintro rfl
      have hreferenced : referenced store.rows found = true :=
        List.any_eq_true.mpr ⟨(sha, row), hmem, by simpa using hfound⟩
      rw [hunneeded.1] at hreferenced
      cases hreferenced
    refine ⟨found, hfound, ?_⟩
    show ((store.files.remove content).file found).isSome = true
    rw [ContentFiles.remove_of_ne _ hne]
    exact hfile
  published other put hpublished := by
    have hpublished : Function.update store.calls call phase other = .putPublished put := hpublished
    show ((store.files.remove content).file (digest put.data)).isSome = true
    by_cases hother : other = call
    · rw [hother, Function.update_self] at hpublished
      exact absurd hpublished (hphase put)
    · rw [Function.update_of_ne hother] at hpublished
      rw [ContentFiles.remove_of_ne _ (hunneeded.2 other put hpublished)]
      exact hcomplete.published other put hpublished

/-- A file that a row references is missed once it is removed. -/
theorem not_complete_of_remove {sha content : Digest} {row : Row Digest}
    (hmem : (sha, row) ∈ store.rows) (hcontent : row.contentSha = some content) (call : Nat)
    (phase : CachePhase Digest) :
    ¬ Complete { store.goto call phase with files := store.files.remove content } := by
  intro hcomplete
  obtain ⟨found, hfound, hfile⟩ := hcomplete.rows sha row hmem
  cases hcontent.symm.trans hfound
  rw [HasFile, ContentFiles.remove_self] at hfile
  cases hfile

theorem Complete.step (hcomplete : store.Complete) {event : CacheEvent Digest}
    (hunneeded : store.RemovesUnneeded event) (hstep : store.step event = some next) :
    next.Complete := by
  cases event with
  | tick now =>
      cases hstep
      exact ⟨hcomplete.rows, hcomplete.published⟩
  | put | stage | delete | get | read | sweepList | sweepSettle =>
      simp only [Store.step] at hstep
      split at hstep
      · cases hstep
        exact hcomplete.move rfl (fun _ h => h) (fun _ h => h) (fun _ h => by cases h)
      · cases hstep
  | publish call =>
      simp only [Store.step] at hstep
      split at hstep
      · rename_i put _
        cases hstep
        refine hcomplete.move rfl (fun _ h => h)
          (fun content h => store.files.isSome_publish put.data h) ?_
        rintro found ⟨⟩
        show ((store.files.publish put.data).file (digest put.data)).isSome = true
        rw [ContentFiles.publish_self]
        rfl
      · cases hstep
  | commit call =>
      simp only [Store.step] at hstep
      split at hstep
      · rename_i put hpublished
        cases hstep
        have hmoved : (store.goto call .ended).Complete :=
          hcomplete.move rfl (fun _ h => h) (fun _ h => h) (fun _ h => by cases h)
        refine ⟨?_, hmoved.published⟩
        intro sha row hmem
        rcases mem_replaceRow hmem with ⟨-, rfl⟩ | ⟨-, hold⟩
        · exact ⟨digest put.data, rfl, hcomplete.published call put hpublished⟩
        · exact hcomplete.rows sha row hold
      · cases hstep
  | deleteRow | sweepTransaction =>
      simp only [Store.step] at hstep
      split at hstep
      · cases hstep
        exact hcomplete.move rfl (fun _ h => (List.mem_filter.mp h).1) (fun _ h => h)
          (fun _ h => by cases h)
      · cases hstep
  | deleteCheck | select | sweep =>
      simp only [Store.step] at hstep
      split at hstep
      · split at hstep
        all_goals cases hstep
        all_goals exact hcomplete.move rfl (fun _ h => h) (fun _ h => h) (fun _ h => by cases h)
      · cases hstep
  | deleteRemove call =>
      simp only [Store.step] at hstep
      split at hstep
      · rename_i content hremoving
        cases hstep
        exact hcomplete.remove (hunneeded content hremoving) (fun _ h => by cases h)
      · cases hstep
  | sweepRemove call content =>
      simp only [Store.step] at hstep
      split at hstep
      · simp only [Option.ite_none_right_eq_some] at hstep
        cases hstep.2
        exact hcomplete.remove hunneeded (fun _ h => by cases h)
      · cases hstep
  | stop call =>
      cases hstep
      exact hcomplete.move rfl (fun _ h => h) (fun _ h => h) (fun _ h => by cases h)

/-- In every run in which deletes and sweeps remove only files that are not needed at that
moment, every row has its content file. -/
theorem rows_have_files (digest : Bytes → Digest) :
    ∀ store, (system digest).ReachableUnder RemovesUnneeded store →
      ∀ sha row, (sha, row) ∈ store.rows →
        ∃ content, row.contentSha = some content ∧ store.HasFile content := by
  intro store hreach
  have hcomplete : store.Complete := by
    apply hreach.invariant
    · rintro _ ⟨ttl, clock, rfl⟩
      exact ⟨fun _ _ hmem => (by cases hmem), fun _ _ hpublished => (by cases hpublished)⟩
    · intro source event target hcomplete hunneeded hstep
      exact hcomplete.step hunneeded hstep
  exact hcomplete.rows

/-- Two payloads are put under two keys, and the second is deleted as far as its file. -/
def removalRun : List (CacheEvent Bytes) :=
  putRun 0 "a" [1] ++ putRun 1 "b" [2] ++ [.delete 2 "b", .deleteRow 2, .deleteCheck 2]

/-- The delete of `removalRun` is about to remove a file that nobody needs, and a row stays. -/
def aboutToRemove (store : Store (id : Bytes → Bytes)) : Bool :=
  match store.calls 0, store.calls 1, store.calls 2 with
  | .ended, .ended, .deleteRemoving content =>
      decide (content = [2]) && !referenced store.rows [2] && !store.rows.isEmpty
  | _, _, _ => false

theorem unneeded_of_aboutToRemove {store : Store (id : Bytes → Bytes)}
    (htest : aboutToRemove store = true) (hidle : ∀ call, 2 < call → store.calls call = .idle) :
    store.calls 2 = .deleteRemoving [2] ∧ store.Unneeded [2] ∧ store.rows ≠ [] := by
  unfold aboutToRemove at htest
  split at htest
  case h_2 => cases htest
  rename_i content hfirst hsecond hdelete
  simp only [Bool.and_eq_true, decide_eq_true_eq, Bool.not_eq_true'] at htest
  obtain ⟨⟨rfl, hunreferenced⟩, hrows⟩ := htest
  refine ⟨hdelete, ⟨hunreferenced, ?_⟩, by simpa using hrows⟩
  intro call put hpublished
  match call with
  | 0 => cases hfirst.symm.trans hpublished
  | 1 => cases hsecond.symm.trans hpublished
  | 2 => cases hdelete.symm.trans hpublished
  | later + 3 => cases (hidle (later + 3) (by omega)).symm.trans hpublished

/-- The row of one key has its file after the file of another was removed. -/
theorem row_has_file_after_removal :
    ∃ store, (system (id : Bytes → Bytes)).ReachableUnder RemovesUnneeded store ∧
      store.rows ≠ [] ∧ store.files.file [2] = none ∧ ∀ sha row, (sha, row) ∈ store.rows →
        ∃ content, row.contentSha = some content ∧ store.HasFile content := by
  have hguard : ∀ event ∈ removalRun, ∀ store : Store (id : Bytes → Bytes),
      store.RemovesUnneeded event := by
    intro event hevent store
    simp only [removalRun, putRun, List.cons_append, List.nil_append, List.mem_cons,
      List.not_mem_nil, or_false] at hevent
    rcases hevent with rfl | rfl | rfl | rfl | rfl | rfl | rfl | rfl | rfl | rfl | rfl
    all_goals exact trivial
  obtain ⟨store, hrun, htest⟩ := (Option.any_eq_true _ _).mp
    (show ((system (id : Bytes → Bytes)).run (fresh id (fun _ => 10) 0) removalRun).any
      aboutToRemove = true by decide +kernel)
  have hidle : ∀ call, 2 < call → store.calls call = .idle := by
    intro call hcall
    apply calls_of_run hrun
    simp only [removalRun, putRun, List.cons_append, List.nil_append, List.forall_mem_cons,
      CacheEvent.call, ne_eq, Option.some.injEq]
    simp only [List.not_mem_nil, false_implies, implies_true, and_true]
    omega
  obtain ⟨hdelete, hunneeded, hrows⟩ := unneeded_of_aboutToRemove htest hidle
  have hprior : (system (id : Bytes → Bytes)).ReachableUnder RemovesUnneeded store :=
    .of_run removalRun hguard (.start ⟨_, _, rfl⟩) hrun
  have hallowed : store.RemovesUnneeded (.deleteRemove 2) := by
    intro content hremoving
    cases hdelete.symm.trans hremoving
    exact hunneeded
  have hremoved : store.step (.deleteRemove 2) =
      some { store.goto 2 .ended with files := store.files.remove [2] } := by
    simp only [Store.step, hdelete]
  have hreach := hprior.next _ hallowed hremoved
  exact ⟨_, hreach, hrows, store.files.remove_self [2], rows_have_files id _ hreach⟩

/-- A delete has found that no row references its content any more. Before it removes the file,
the same payload is put under another key. -/
def lateRemoval : List (CacheEvent Bytes) :=
  putRun 0 "a" [1] ++ [.delete 1 "a", .deleteRow 1, .deleteCheck 1] ++ putRun 2 "b" [1] ++
    [.deleteRemove 1]

/-- The row of the second put is fresh, and the file with its content is gone. -/
theorem late_removal_takes_file :
    ¬ ∀ (digest : Bytes → Bytes) store, Function.Injective digest →
      (system digest).Reachable store → ∀ owner sha row, (sha, row) ∈ store.rows →
        row.expired (store.instances owner).ttl store.clock = false →
          ∃ content, row.contentSha = some content ∧ store.HasFile content := by
  intro hclaim
  obtain ⟨store, hreach, htest⟩ := (system (id : Bytes → Bytes)).exists_reachable_of_run
    (Store.fresh id (fun _ => 10) 0) ⟨_, _, rfl⟩ lateRemoval
    (fun store => store.rows.any fun entry =>
      !entry.2.expired (store.instances 0).ttl store.clock &&
        entry.2.contentSha.all fun content => (store.files.file content).isNone)
    (by decide +kernel)
  simp only [List.any_eq_true, Bool.and_eq_true, Bool.not_eq_true'] at htest
  obtain ⟨⟨sha, row⟩, hmem, hlive, hmissing⟩ := htest
  obtain ⟨content, hcontent, hfile⟩ := hclaim id store Function.injective_id hreach 0 sha row hmem
    hlive
  rw [HasFile] at hfile
  simp [hcontent, Option.isSome_iff_ne_none.mp hfile] at hmissing

end DataSluice.Io.Store
