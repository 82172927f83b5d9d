/-
# The content cache

`ContentCache`: a table of rows in SQLite and a directory of content files, used by any number
of instances. A transaction is one step, and so is every operation on a file; between two steps
of a call anything else may happen, and a call may stop anywhere.

`get` and `put` run a sweep on the way. A sweep is an activity of its own here, which may start
at any time. A file is told apart by its name: the content files are named by a digest, and the
temporary files, each with a name that nothing else uses, and the database are left out. The
digest is that of SHA-256, with any type for its values.

The table keeps beside its rows what the code does not: the payload of the last `put` for a key
that was committed.
-/

import DataSluice.Lib.ContentFiles
import DataSluice.Lib.Transition
import Mathlib.Algebra.Order.Ring.Rat

namespace DataSluice.Io

open DataSluice.Lib

/-- `bytes` -/
abbrev Bytes := List UInt8

/-- `key.encode()` -/
def encodeKey (key : String) : Bytes := key.toUTF8.data.toList

theorem encodeKey_injective : Function.Injective encodeKey := by
  intro one two h
  have hdata : one.toUTF8.data = two.toUTF8.data := Array.toList_inj.mp h
  exact String.toByteArray_inj.mp (ByteArray.ext hdata)

/-- The column `status`. -/
inductive RowStatus
  | writing
  | ready
  deriving DecidableEq

/-- A row of the table, under its primary key `sha256`. -/
structure Row (Digest : Type) where
  url : String
  etag : Option String
  lastModified : Option String
  fetchedAt : ℚ
  contentLength : Nat
  status : RowStatus
  contentSha : Option Digest

/-- The arguments of `_put_internal`, and the time at which it started. -/
structure Put where
  key : String
  data : Bytes
  etag : Option String
  lastModified : Option String
  fetchedAt : ℚ

/-- How far a call or a sweep has come. -/
inductive CachePhase (Digest : Type)
  | idle
  | putStarted (put : Put)
  | putStaged (put : Put)
  | putPublished (put : Put)
  | deleteStarted (key : String)
  | /-- The row is gone; the references to its content are to be checked. -/
    deleteChecking (content : Digest)
  | /-- No row referenced the content. -/
    deleteRemoving (content : Digest)
  | getStarted (owner : Nat) (key : String)
  | /-- A row was read; the payload is that of the last `put` committed at that moment. -/
    getReading (key : String) (content : Digest) (latest : Option Bytes)
  | getReturned (key : String) (data : Option Bytes) (latest : Option Bytes)
  | sweepStarted (owner : Nat)
  | sweepListed (owner : Nat) (listed : Digest → Bool)
  | sweepKnown (owner : Nat) (listed known : Digest → Bool)
  | sweepRemoving (stale : Digest → Bool)
  | ended

/-- `ContentCache`: its time to live, `_last_sweep` and `_orphan_candidates`. -/
structure Instance (Digest : Type) where
  ttl : ℚ
  lastSweep : ℚ
  orphanCandidates : Digest → Bool

/-- `SWEEP_INTERVAL_SECONDS` -/
def sweepIntervalSeconds : ℚ := 60

/-- `STALE_WRITING_THRESHOLD_SECONDS` -/
def staleWritingThresholdSeconds : ℚ := 300

/-- A row is past its time to live. -/
def Row.expired {Digest : Type} (row : Row Digest) (ttl now : ℚ) : Bool :=
  decide (row.fetchedAt + ttl < now)

/-- A row that the transaction of a sweep deletes. -/
def Row.swept {Digest : Type} (row : Row Digest) (ttl now : ℚ) : Bool :=
  match row.status with
  | .writing => row.expired staleWritingThresholdSeconds now
  | .ready => row.expired ttl now

variable {Digest : Type} [DecidableEq Digest]

/-- `_sha` -/
def keySha (digest : Bytes → Digest) (key : String) : Digest := digest (encodeKey key)

/-! ## The table -/

/-- `SELECT … WHERE sha256=?` -/
def rowOf (rows : List (Digest × Row Digest)) (sha : Digest) : Option (Row Digest) :=
  (rows.find? fun entry => decide (entry.1 = sha)).map Prod.snd

/-- `DELETE … WHERE sha256=?` -/
def deleteRow (rows : List (Digest × Row Digest)) (sha : Digest) : List (Digest × Row Digest) :=
  rows.filter fun entry => decide (entry.1 ≠ sha)

/-- `INSERT OR REPLACE` -/
def replaceRow (rows : List (Digest × Row Digest)) (sha : Digest) (row : Row Digest) :
    List (Digest × Row Digest) :=
  deleteRow rows sha ++ [(sha, row)]

/-- Whether a row references a content file. -/
def referenced (rows : List (Digest × Row Digest)) (content : Digest) : Bool :=
  rows.any fun entry => decide (entry.2.contentSha = some content)

/-- The digests a sweep keeps: of the content of the rows, or of the key of a row without. -/
def known (rows : List (Digest × Row Digest)) (content : Digest) : Bool :=
  rows.any fun entry => decide (entry.2.contentSha.getD entry.1 = content)

theorem mem_of_rowOf {rows : List (Digest × Row Digest)} {sha : Digest}
    {row : Row Digest} (hrow : rowOf rows sha = some row) : (sha, row) ∈ rows := by
  simp only [rowOf, Option.map_eq_some_iff] at hrow
  obtain ⟨⟨name, found⟩, hfirst, rfl⟩ := hrow
  have hname := List.find?_some hfirst
  simp only [decide_eq_true_eq] at hname
  exact hname ▸ List.mem_of_find?_eq_some hfirst

/-- A row of the table after a replacement is the new one, or an old one under another key. -/
theorem mem_replaceRow {rows : List (Digest × Row Digest)} {sha other : Digest}
    {row found : Row Digest} (hmem : (other, found) ∈ replaceRow rows sha row) :
    (other = sha ∧ found = row) ∨ (other ≠ sha ∧ (other, found) ∈ rows) := by
  rw [replaceRow, List.mem_append, List.mem_singleton] at hmem
  rcases hmem with hold | hnew
  · simp only [deleteRow, List.mem_filter, decide_eq_true_eq] at hold
    exact .inr hold.symm
  · exact .inl (Prod.mk.inj hnew)

/-! ## Steps -/

/-- The directory, the table, the instances and their activities. -/
structure Store (digest : Bytes → Digest) where
  files : ContentFiles digest
  rows : List (Digest × Row Digest)
  instances : Nat → Instance Digest
  calls : Nat → CachePhase Digest
  clock : ℚ
  /-- The payload of the last `put` for a key that was committed. -/
  latest : String → Option Bytes

/-- The scheduler's choices. -/
inductive CacheEvent (Digest : Type)
  | tick (now : ℚ)
  | put (call : Nat) (key : String) (data : Bytes) (etag lastModified : Option String)
  | stage (call : Nat)
  | publish (call : Nat)
  | commit (call : Nat)
  | delete (call : Nat) (key : String)
  | deleteRow (call : Nat)
  | deleteCheck (call : Nat)
  | deleteRemove (call : Nat)
  | get (call owner : Nat) (key : String)
  | select (call : Nat)
  | read (call : Nat)
  | sweep (call owner : Nat)
  | sweepList (call : Nat)
  | sweepTransaction (call : Nat)
  | sweepSettle (call : Nat)
  | sweepRemove (call : Nat) (content : Digest)
  | /-- A call fails or its process crashes. -/
    stop (call : Nat)

/-- The activity that an event moves on. -/
def CacheEvent.call {Digest : Type} : CacheEvent Digest → Option Nat
  | .tick _ => none
  | .put call .. | .stage call | .publish call | .commit call | .delete call _ | .deleteRow call
  | .deleteCheck call | .deleteRemove call | .get call .. | .select call | .read call
  | .sweep call _ | .sweepList call | .sweepTransaction call | .sweepSettle call
  | .sweepRemove call _ | .stop call => some call

namespace Store

variable {digest : Bytes → Digest} (store : Store digest)

/-- Put one activity into a new phase. -/
def goto (call : Nat) (phase : CachePhase Digest) : Store digest :=
  { store with calls := Function.update store.calls call phase }

/-- The row that a `put` commits. -/
def rowOfPut (digest : Bytes → Digest) (put : Put) : Row Digest where
  url := put.key
  etag := put.etag
  lastModified := put.lastModified
  fetchedAt := put.fetchedAt
  contentLength := put.data.length
  status := .ready
  contentSha := some (digest put.data)

/-- The row of `get` that is worth reading, and the name of its content file. -/
def liveContent (ttl : ℚ) (key : String) : Option Digest :=
  match rowOf store.rows (keySha digest key) with
  | none => none
  | some row =>
      if row.status = .writing ∨ row.expired ttl store.clock = true then none
      else some (row.contentSha.getD (keySha digest key))

/-- What `get` returns when nothing happens meanwhile. -/
def readable (ttl : ℚ) (key : String) : Option Bytes :=
  (store.liveContent ttl key).bind store.files.file

/-- One scheduled step. -/
def step : CacheEvent Digest → Option (Store digest)
  | .tick now => some { store with clock := now }
  | .put call key data etag lastModified =>
      match store.calls call with
      | .idle => some (store.goto call (.putStarted ⟨key, data, etag, lastModified, store.clock⟩))
      | _ => none
  | .stage call =>
      match store.calls call with
      | .putStarted put => some (store.goto call (.putStaged put))
      | _ => none
  | .publish call =>
      match store.calls call with
      | .putStaged put =>
          some { store.goto call (.putPublished put) with files := store.files.publish put.data }
      | _ => none
  | .commit call =>
      match store.calls call with
      | .putPublished put =>
          some { store.goto call .ended with
            rows := replaceRow store.rows (keySha digest put.key) (rowOfPut digest put)
            latest := Function.update store.latest put.key (some put.data) }
      | _ => none
  | .delete call key =>
      match store.calls call with
      | .idle => some (store.goto call (.deleteStarted key))
      | _ => none
  | .deleteRow call =>
      match store.calls call with
      | .deleteStarted key =>
          let content :=
            ((rowOf store.rows (keySha digest key)).bind Row.contentSha).getD (keySha digest key)
          some { store.goto call (.deleteChecking content) with
            rows := deleteRow store.rows (keySha digest key) }
      | _ => none
  | .deleteCheck call =>
      match store.calls call with
      | .deleteChecking content =>
          if referenced store.rows content then some (store.goto call .ended)
          else some (store.goto call (.deleteRemoving content))
      | _ => none
  | .deleteRemove call =>
      match store.calls call with
      | .deleteRemoving content =>
          some { store.goto call .ended with files := store.files.remove content }
      | _ => none
  | .get call owner key =>
      match store.calls call with
      | .idle => some (store.goto call (.getStarted owner key))
      | _ => none
  | .select call =>
      match store.calls call with
      | .getStarted owner key =>
          match store.liveContent (store.instances owner).ttl key with
          | none => some (store.goto call (.getReturned key none (store.latest key)))
          | some content => some (store.goto call (.getReading key content (store.latest key)))
      | _ => none
  | .read call =>
      match store.calls call with
      | .getReading key content latest =>
          some (store.goto call (.getReturned key (store.files.file content) latest))
      | _ => none
  | .sweep call owner =>
      match store.calls call with
      | .idle =>
          if store.clock - (store.instances owner).lastSweep < sweepIntervalSeconds then none
          else
            some { store.goto call (.sweepStarted owner) with
              instances := Function.update store.instances owner
                { store.instances owner with lastSweep := store.clock } }
      | _ => none
  | .sweepList call =>
      match store.calls call with
      | .sweepStarted owner =>
          some (store.goto call (.sweepListed owner fun name => (store.files.file name).isSome))
      | _ => none
  | .sweepTransaction call =>
      match store.calls call with
      | .sweepListed owner listed =>
          let rows := store.rows.filter fun entry =>
            !entry.2.swept (store.instances owner).ttl store.clock
          some { store.goto call (.sweepKnown owner listed (known rows)) with rows := rows }
      | _ => none
  | .sweepSettle call =>
      match store.calls call with
      | .sweepKnown owner listed known =>
          let candidates := fun name => listed name && !known name
          some { store.goto call (.sweepRemoving fun name =>
              candidates name && (store.instances owner).orphanCandidates name) with
            instances := Function.update store.instances owner
              { store.instances owner with orphanCandidates := candidates } }
      | _ => none
  | .sweepRemove call content =>
      match store.calls call with
      | .sweepRemoving stale =>
          if stale content then
            some { store.goto call (.sweepRemoving (Function.update stale content false)) with
              files := store.files.remove content }
          else none
      | _ => none
  | .stop call => some (store.goto call .ended)

/-- A directory that nobody has used yet. -/
def fresh (digest : Bytes → Digest) (ttl : Nat → ℚ) (clock : ℚ) : Store digest where
  files := .empty
  rows := []
  instances owner := ⟨ttl owner, 0, fun _ => false⟩
  calls _ := .idle
  clock := clock
  latest _ := none

/-- The interleavings of activities on one directory. -/
def system (digest : Bytes → Digest) : System (Store digest) (CacheEvent Digest) where
  init store := ∃ ttl clock, store = fresh digest ttl clock
  step := step

end Store

end DataSluice.Io
