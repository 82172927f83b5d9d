/-
# How far a call gets

Whether a call gets to its move, and which bytes it then puts at the final URI, follows from
what it is given: the source and the stored artifact, the files that are there, and which
operations fail. This is said here without running the call: `Work.Stages` is about the bytes
in the temporary file, `Work.Replaces` about the decision not to keep the published file, and
`Work.Moves` about the call as a whole.

Every function of a call has one lemma, which says when the function returns, what it leaves
behind then, and what it leaves behind when it raises.
-/

import DataSluice.Sync.Materialize

namespace DataSluice.Sync.Materialize

open DataSluice.Lib DataSluice.Lib.Url DataSluice.Domain DataSluice.Data

variable {Schema Batch : Type} (tools : Tools Schema Batch)

/-! ## The staged bytes -/

/-- The digest of the schema and the batches that are written. -/
def Tools.contentDigest (schema : Schema) (batches : List Batch) : Checksum :=
  ⟨tools.logicalSha256 schema batches, tools.logicalSha256_valid schema batches⟩

/-- A checksum is 64 lower-case hexadecimal digits. -/
theorem Checksum.valid (checksum : Checksum) : isLowerSha256 checksum.1 = true := checksum.2

/-- What a file of these bytes is found to be. -/
def Tools.written (contentDigest : Checksum) (bytes : Bytes) : Written where
  size := bytes.length
  contentDigest := contentDigest.1
  blobDigest := (tools.blobDigest bytes).1
  content_valid := contentDigest.valid
  blob_valid := (tools.blobDigest bytes).valid

/-- The temporary file is opened, takes so many values, and is closed. -/
structure Faults.FillsStaged (faults : Faults) (count : Nat) : Prop where
  opened : faults.openStaged = .none
  writer : faults.openWriter = .none
  closed : faults.closeStaged = .none
  values : ∀ index < count, faults.writeBatch index = .none

variable (faults : Faults)

/-- All batches of a generator are written to a Parquet file. -/
def StagesParquet (schema : Schema) (batches : Generator Failure Batch) (bytes : Bytes)
    (digest : Checksum) : Prop :=
  ∃ written, batches = .ofList written ∧ faults.FillsStaged written.length ∧
    bytes = tools.writeParquet schema written ∧ digest = tools.contentDigest schema written

/-- All chunks of a source are copied, and the copy is hashed. -/
def StagesRaw (source : Except Failure (Generator Failure Bytes)) (bytes : Bytes)
    (digest : Checksum) : Prop :=
  ∃ chunks, source = .ok (.ofList chunks) ∧ faults.FillsStaged chunks.length ∧
    faults.digestStaged = none ∧ bytes = chunks.flatten ∧ digest = tools.blobDigest bytes

/-- What a reader hands out is staged in one of the modes. -/
def Reading.Stages {unicode : UnicodeData} (mode : String)
    (reading : Reading unicode Schema Batch) (bytes : Bytes) (digest : Checksum) : Prop :=
  if mode = "raw" then StagesRaw tools faults reading.raw bytes digest
  else ∃ opened, reading.stream = .ok opened ∧
    StagesParquet tools faults opened.1 opened.2 bytes digest

/-- The bytes in the temporary file when all of the source has been written, with their content
digest. The file of a continuation is written from its shards. -/
def Work.Stages {unicode : UnicodeData} (mode : String) (shards : Nat → Option Bytes)
    (count : Nat) (bytes : Bytes) (digest : Checksum) : Work unicode Schema Batch → Prop
  | .reading input => input.Stages tools faults mode bytes digest
  | .stream _ schema batches => StagesParquet tools faults schema batches bytes digest
  | .checkpointed _ schema _ => StagesParquet tools faults schema
      (checkpointBatches tools faults shards (List.range count)) bytes digest

/-! ## The shards of a continuation -/

/-- One shard is put in place, in place of an older one, and reported. -/
structure Faults.PutsShard (faults : Faults) (shards : Nat → Option Bytes) (index : Nat) : Prop where
  written : faults.writeTable index = .none
  looked : faults.existsShard index = .none
  removed : (shards index).isSome = true → faults.removeShard index = .none
  piped : faults.pipeShard index = .none
  moved : faults.moveShard index = .none
  reported : faults.onBatchPersisted index = .none

/-- The shards with one more in place. -/
def putShard (shards : Nat → Option Bytes) (index : Nat) (bytes : Bytes) : Nat → Option Bytes :=
  fun other => if other = index then some bytes else shards other

/-- Every batch from `next` on comes with the cursor behind it, and is put in place. -/
def Faults.PutsShards (shards : Nat → Option Bytes) :
    Nat → List (Batch × BatchCursor) → Prop
  | _, [] => True
  | next, (_, cursor) :: items =>
      cursor.nextBatchIndex = next + 1 ∧ faults.PutsShard shards next ∧
        PutsShards shards (next + 1) items

/-- The shards after that. -/
def putShards (shards : Nat → Option Bytes) :
    Nat → List (Batch × BatchCursor) → Nat → Option Bytes
  | _, [] => shards
  | next, (batch, _) :: items =>
      putShards (putShard shards next (tools.writeTable batch)) (next + 1) items

/-- The shards below `count` are looked for and found. -/
def Faults.FindsShards (shards : Nat → Option Bytes) (count : Nat) : Prop :=
  ∀ index < count, faults.existsShard index = .none ∧ (shards index).isSome = true

/-- The mode that a call runs in. -/
def modeOf {unicode : UnicodeData} : Work unicode Schema Batch → String
  | .reading input => input.mode
  | .stream mode _ _ => mode
  | .checkpointed _ _ _ => "parquet"

/-- Nothing raises in front of the `try` block that publishes; the block begins with these
shards, and so many of them are to be published. -/
def Work.Begins {unicode : UnicodeData} (start shards : Nat → Option Bytes) (count : Nat) :
    Work unicode Schema Batch → Prop
  | .reading _ => shards = start ∧ count = 0
  | .stream mode _ _ => mode = "parquet" ∧ shards = start ∧ count = 0
  | .checkpointed startBatchIndex _ items =>
      0 ≤ startBatchIndex ∧ faults.makePartialDirs = none ∧
        faults.FindsShards start startBatchIndex.toNat ∧ faults.enterStream = none ∧
        ∃ staged, items = .ofList staged ∧
          faults.PutsShards start startBatchIndex.toNat staged ∧
          shards = putShards tools start startBatchIndex.toNat staged ∧
          count = startBatchIndex.toNat + staged.length ∧ faults.FindsShards shards count

/-! ## The decision of `materialize` -/

section Decision

variable {tools} {request : Request tools.stdlib.unicode}

/-- What `_existing_record` makes of the published file, unless it raises: its digest when the
stored checksum is the one of the staged bytes and the file may stand for them. -/
def Reading.standing (faults : Faults) (context : Context tools request)
    (published : Option Bytes) (bytes : Bytes) (digest : Checksum)
    (reading : Reading tools.stdlib.unicode Schema Batch) : Option Checksum :=
  if reading.storedChecksum = some digest.1 then
    published.bind fun found => probe tools faults found bytes context.mediaType digest.1
      (if context.mode = "raw" then some digest.1 else none)
  else none

/-- The file that will be described: the published one when it may stand for the staged bytes. -/
def Reading.described (faults : Faults) (context : Context tools request)
    (published : Option Bytes) (bytes : Bytes) (digest : Checksum)
    (reading : Reading tools.stdlib.unicode Schema Batch) : Bytes :=
  if (reading.standing faults context published bytes digest).isSome then published.getD bytes
  else bytes

/-- No operation fails while the two files are compared and the one to be described is
measured. -/
structure Reading.Measures (faults : Faults) (context : Context tools request)
    (published : Option Bytes) (bytes : Bytes) (digest : Checksum)
    (reading : Reading tools.stdlib.unicode Schema Batch) : Prop where
  looked : reading.storedChecksum = some digest.1 → faults.existsPublished = none
  sized : faults.infoSize = none
  hashed : context.mode ≠ "raw" →
    reading.standing faults context published bytes digest = none → faults.digestBlob = none

/-- The stored artifact when it says of that file what would be said of it now. -/
def Reading.current (faults : Faults) (context : Context tools request)
    (published : Option Bytes) (bytes : Bytes) (digest : Checksum)
    (reading : Reading tools.stdlib.unicode Schema Batch) :
    Option (Artifact tools.stdlib.unicode) :=
  storedArtifactIfCurrent tools context
    (tools.written digest (reading.described faults context published bytes digest))
    reading.storedArtifact

/-! Only `materialize` looks at the published file and at the stored artifact. -/

def Work.standing (faults : Faults) (context : Context tools request) (published : Option Bytes)
    (bytes : Bytes) (digest : Checksum) : Work tools.stdlib.unicode Schema Batch → Option Checksum
  | .reading input => input.standing faults context published bytes digest
  | _ => none

def Work.described (faults : Faults) (context : Context tools request) (published : Option Bytes)
    (bytes : Bytes) (digest : Checksum) : Work tools.stdlib.unicode Schema Batch → Bytes
  | .reading input => input.described faults context published bytes digest
  | _ => bytes

def Work.Measures (faults : Faults) (context : Context tools request) (published : Option Bytes)
    (bytes : Bytes) (digest : Checksum) : Work tools.stdlib.unicode Schema Batch → Prop
  | .reading input => input.Measures faults context published bytes digest
  | _ => faults.infoSize = none ∧ faults.digestBlob = none

def Work.current (faults : Faults) (context : Context tools request) (published : Option Bytes)
    (bytes : Bytes) (digest : Checksum) :
    Work tools.stdlib.unicode Schema Batch → Option (Artifact tools.stdlib.unicode)
  | .reading input => input.current faults context published bytes digest
  | _ => none

end Decision

variable {tools faults} {request : Request tools.stdlib.unicode}

/-- The call has these bytes in its temporary file, compares them and measures them: no operation
fails up to there. -/
structure Work.Reaches (faults : Faults) (request : Request tools.stdlib.unicode)
    (work : Work tools.stdlib.unicode Schema Batch) (disk : Disk)
    (context : Context tools request) (bytes : Bytes) (digest : Checksum) : Prop where
  mode : context.mode = modeOf work
  opened : faults.openFilesystem = none
  made : faults.makedirs = none
  staged : ∃ shards count, work.Begins tools faults disk.shards shards count ∧
    work.Stages tools faults context.mode shards count bytes digest
  measured : work.Measures faults context disk.published bytes digest

/-- The call moves these bytes to the final URI: neither the published file nor the stored
artifact stands for them, and the move works. -/
def Work.Moves (faults : Faults) (request : Request tools.stdlib.unicode)
    (work : Work tools.stdlib.unicode Schema Batch) (disk : Disk)
    (context : Context tools request) (bytes : Bytes) : Prop :=
  ∃ digest, work.Reaches faults request disk context bytes digest ∧
    work.current faults context disk.published bytes digest = none ∧
    work.standing faults context disk.published bytes digest = none ∧ faults.move = none

/-- The call hands back the artifact that the caller has stored. -/
def Work.HandsBack (faults : Faults) (request : Request tools.stdlib.unicode)
    (work : Work tools.stdlib.unicode Schema Batch) (disk : Disk)
    (stored : Artifact tools.stdlib.unicode) : Prop :=
  ∃ context bytes digest, work.Reaches faults request disk context bytes digest ∧
    work.current faults context disk.published bytes digest = some stored

/-! ## What a call leaves as it is -/

/-- The file at the final URI is the same, and no shard has a new temporary file. -/
structure Kept (start disk : Disk) : Prop where
  published : disk.published = start.published
  free : ∀ index, start.stagedShards index = none → disk.stagedShards index = none

/-- The temporary file is the same, too. -/
structure Untouched (start disk : Disk) : Prop extends Kept start disk where
  staged : disk.staged = start.staged

theorem Untouched.refl (disk : Disk) : Untouched disk disk := ⟨⟨rfl, fun _ hfree => hfree⟩, rfl⟩

theorem Kept.stage {start disk : Disk} (hkept : Kept start disk) (bytes : Option Bytes) :
    Kept start (disk.stage bytes) := ⟨hkept.published, hkept.free⟩

/-- The temporary file holds these bytes, and nothing else has changed. -/
structure Staged (start : Disk) (bytes : Bytes) (disk : Disk) : Prop extends Kept start disk where
  staged : disk.staged = some bytes

/-- These bytes are the file at the final URI. -/
structure Moved (start : Disk) (bytes : Bytes) (disk : Disk) : Prop where
  published : disk.published = some bytes
  free : ∀ index, start.stagedShards index = none → disk.stagedShards index = none

theorem Kept.trans {start middle disk : Disk} (hfirst : Kept start middle)
    (hsecond : Kept middle disk) : Kept start disk :=
  ⟨hsecond.published.trans hfirst.published,
    fun index hfree => hsecond.free index (hfirst.free index hfree)⟩

theorem Kept.moved {start middle disk : Disk} {bytes : Bytes} (hkept : Kept start middle)
    (hmoved : Moved middle bytes disk) : Moved start bytes disk :=
  ⟨hmoved.published, fun index hfree => hmoved.free index (hkept.free index hfree)⟩

/-! ## Operations -/

section Operations

open Durable

variable {P : Disk → Prop} {start : Disk}

/-- A file that is there is read. -/
theorem readFile_decides (fault : Option Failure) {file : Disk → Option Bytes} {bytes : Bytes}
    (hfile : ∀ disk, P disk → file disk = some bytes) :
    Decides (fault = none) P (readFile fault file) (fun found disk => found = bytes ∧ P disk) P := by
  apply (Decides.attempt fun _ hpre => hpre).bind_true
  intro _ _
  apply Decides.read.true_bind
  intro disk
  apply Decides.assume (A := file disk = some bytes)
  · rintro _ ⟨rfl, hpre⟩
    exact hfile _ hpre
  intro hthere
  rw [hthere]
  exact .pure trivial fun _ hpre => ⟨rfl, hpre.2⟩

theorem blobDigestFromFs_decides (fault : Option Failure) {file : Disk → Option Bytes}
    {bytes : Bytes} (hfile : ∀ disk, P disk → file disk = some bytes) :
    Decides (fault = none) P (blobDigestFromFs tools fault file)
      (fun digest disk => digest = tools.blobDigest bytes ∧ P disk) P := by
  apply (readFile_decides fault hfile).bind_true
  intro _ found
  apply Decides.assume fun _ hpre => hpre.1
  rintro rfl
  exact .pure trivial fun _ hpre => ⟨rfl, hpre.2⟩

/-- A move that succeeds puts the temporary file in place. -/
theorem moveStaged_decides (fault : Option Failure) {bytes : Bytes} :
    Decides (fault = none) (Staged start bytes) (moveStaged fault)
      (fun _ => Moved start bytes) (Kept start) := by
  apply Decides.bind_true
  · exact (readFile_decides fault fun _ hstaged => hstaged.staged).weaken (fun _ hpre => hpre)
      (fun _ _ _ hpost => hpost) fun _ hstaged => hstaged.toKept
  intro _ found
  apply Decides.assume fun _ hpre => hpre.1
  rintro rfl
  exact .write fun _ hpre => ⟨rfl, hpre.2.free⟩

/-- The temporary file is written when it can be and everything that goes into it was read. -/
theorem writeStaged_decides {α : Type} (faults : Faults) (consumed : Except Failure α)
    (content : α → Bytes) :
    Decides ((faults.openStaged = none ∧ faults.openWriter = none ∧ faults.closeStaged = none) ∧
        ∃ values, consumed = .ok values) (Kept start)
      (writeStaged faults (consumed.map content))
      (fun _ disk => ∃ values, consumed = .ok values ∧ Staged start (content values) disk)
      (Kept start) := by
  have hstage : ∀ bytes, Decides True (Kept start)
      (Durable.write (·.stage bytes) : FileM Unit) (fun _ => Kept start) (Kept start) :=
    fun bytes => .write fun _ hkept => hkept.stage bytes
  cases consumed with
  | error failure =>
      apply Decides.congr (C := faults.openStaged = none ∧ faults.openWriter = none ∧ False)
      · apply (Decides.attempt fun _ hpre => hpre).bind
        intro _ _
        apply (hstage (some [])).true_bind
        intro _
        apply (Decides.attempt fun _ hpre => hpre).bind
        intro _ _
        apply (hstage (some faults.leftStaged)).true_bind
        intro _
        exact .fail id fun _ hkept => hkept
      · simp
  | ok values =>
      apply Decides.congr
        (C := faults.openStaged = none ∧ faults.openWriter = none ∧ faults.closeStaged = none)
      · apply (Decides.attempt fun _ hpre => hpre).bind
        intro _ _
        apply (hstage (some [])).true_bind
        intro _
        apply (Decides.attempt fun _ hpre => hpre).bind
        intro _ _
        apply Decides.true_bind (R := fun _ => Staged start (content values))
        · exact .write fun _ hkept => ⟨hkept.stage _, rfl⟩
        · intro _
          exact (Decides.attempt fun _ hstaged => hstaged.toKept).weaken (fun _ hpre => hpre)
            (fun _ _ _ hstaged => ⟨values, rfl, hstaged⟩) fun _ hfailed => hfailed
      · simp

/-! ## Staging -/

/-- A first value is consumed when it can be written and the others are consumed. -/
theorem consume_yield_eq_ok_iff {α : Type} {fault : Nat → Option Failure} {index : Nat} {first : α}
    {rest : Generator Failure α} {values : List α} :
    consume fault index (.yield first rest) = .ok values ↔
      fault index = none ∧ ∃ tail, values = first :: tail ∧
        consume fault (index + 1) rest = .ok tail := by
  rw [consume]
  cases fault index with
  | some failure => simp
  | none => cases consume fault (index + 1) rest <;> simp [Except.map, eq_comm]

/-- A generator is consumed when it ends with a return and each of its values can be written.
The induction is on the generator. -/
theorem consume_eq_ok_iff {α : Type} {fault : Nat → Option Failure} {index : Nat}
    {generator : Generator Failure α} {values : List α} :
    consume fault index generator = .ok values ↔
      generator = .ofList values ∧ ∀ position < values.length, fault (index + position) = none := by
  induction generator generalizing index values with
  | stop => cases values <;> simp [consume, Generator.ofList]
  | raise failure => cases values <;> simp [consume, Generator.ofList]
  | yield first rest ih =>
      rw [consume_yield_eq_ok_iff]
      cases values with
      | nil => simp [Generator.ofList]
      | cons value values =>
          have hshift : ∀ position, index + 1 + position = index + (position + 1) := by omega
          simp only [List.cons.injEq, ih, Generator.ofList, Generator.yield.injEq,
            List.length_cons, Nat.forall_lt_succ_left, Nat.add_zero, hshift]
          constructor
          · rintro ⟨hfirst, tail, ⟨rfl, rfl⟩, hrest, hlater⟩
            exact ⟨⟨rfl, hrest⟩, hfirst, hlater⟩
          · rintro ⟨⟨rfl, hrest⟩, hfirst, hlater⟩
            exact ⟨hfirst, values, ⟨rfl, rfl⟩, hrest, hlater⟩

/-- What can be written is consumed. -/
theorem Faults.FillsStaged.consume {α : Type} {faults : Faults} {values : List α}
    (hfills : faults.FillsStaged values.length) :
    consume faults.writeBatch 0 (.ofList values) = .ok values := by
  apply consume_eq_ok_iff.mpr
  simpa using hfills.values

/-- A file is filled from a generator when all of the generator is consumed. -/
theorem fillStaged_decides {α : Type} (faults : Faults) (generator : Generator Failure α)
    (content : List α → Bytes) :
    Decides (∃ values, generator = .ofList values ∧ faults.FillsStaged values.length) (Kept start)
      (writeStaged faults ((Materialize.consume faults.writeBatch 0 generator).map content))
      (fun _ disk => ∃ values, generator = .ofList values ∧ Staged start (content values) disk)
      (Kept start) := by
  apply ((writeStaged_decides faults _ content).weaken (fun _ hkept => hkept) _
    fun _ hkept => hkept).congr
  · simp only [consume_eq_ok_iff, Nat.zero_add]
    constructor
    · rintro ⟨⟨hopened, hwriter, hclosed⟩, values, rfl, hvalues⟩
      exact ⟨values, rfl, hopened, hwriter, hclosed, hvalues⟩
    · rintro ⟨values, rfl, hfills⟩
      exact ⟨⟨hfills.opened, hfills.writer, hfills.closed⟩, values, rfl, hfills.values⟩
  · rintro - _ disk ⟨values, hvalues, hstaged⟩
    exact ⟨values, (consume_eq_ok_iff.mp hvalues).1, hstaged⟩

theorem ofList_injective {α : Type} {first second : List α}
    (hsame : (Generator.ofList first : Generator Failure α) = .ofList second) : first = second := by
  calc first
    _ = (Generator.ofList first : Generator Failure α).values :=
      (Generator.values_ofList first).symm
    _ = (Generator.ofList second : Generator Failure α).values := by rw [hsame]
    _ = second := Generator.values_ofList second

theorem writeParquet_decides (faults : Faults) (schema : Schema)
    (batches : Generator Failure Batch) :
    Decides (∃ bytes digest, StagesParquet tools faults schema batches bytes digest) (Kept start)
      (writeParquet tools faults schema batches)
      (fun digest disk => ∃ bytes, StagesParquet tools faults schema batches bytes digest ∧
        Staged start bytes disk) (Kept start) := by
  apply Decides.congr (C := ∃ values, batches = .ofList values ∧ faults.FillsStaged values.length)
  · apply (fillStaged_decides faults batches _).bind_true
    rintro ⟨values, rfl, hfills⟩ _
    rw [hfills.consume]
    apply Decides.pure trivial
    rintro disk ⟨others, hothers, hstaged⟩
    cases ofList_injective hothers
    exact ⟨_, ⟨values, rfl, hfills, rfl, rfl⟩, hstaged⟩
  · constructor
    · rintro ⟨values, hbatches, hfills⟩
      exact ⟨_, _, values, hbatches, hfills, rfl, rfl⟩
    · rintro ⟨_, _, values, hbatches, hfills, -⟩
      exact ⟨values, hbatches, hfills⟩

theorem writeRaw_decides (faults : Faults)
    (source : Except Failure (Generator Failure Bytes)) :
    Decides (∃ bytes digest, StagesRaw tools faults source bytes digest) (Kept start)
      (writeRaw tools faults source)
      (fun digest disk => ∃ bytes, StagesRaw tools faults source bytes digest ∧
        Staged start bytes disk) (Kept start) := by
  cases source with
  | error failure =>
      apply Decides.fail _ fun _ hkept => hkept
      rintro ⟨_, _, chunks, ⟨⟩, -⟩
  | ok generator =>
      apply Decides.congr (C := (∃ chunks, generator = .ofList chunks ∧
        faults.FillsStaged chunks.length) ∧ faults.digestStaged = none)
      · apply (fillStaged_decides faults generator List.flatten).bind
        rintro ⟨chunks, rfl, hfills⟩ _
        apply Decides.weaken (P := Staged start chunks.flatten)
        · exact blobDigestFromFs_decides faults.digestStaged fun _ hstaged => hstaged.staged
        · rintro disk ⟨others, hothers, hstaged⟩
          cases ofList_injective hothers
          exact hstaged
        · rintro hdigest digest disk ⟨rfl, hstaged⟩
          exact ⟨_, ⟨chunks, rfl, hfills, hdigest, rfl, rfl⟩, hstaged⟩
        · exact fun _ hstaged => hstaged.toKept
      · constructor
        · rintro ⟨⟨chunks, rfl, hfills⟩, hdigest⟩
          exact ⟨_, _, chunks, rfl, hfills, hdigest, rfl, rfl⟩
        · rintro ⟨_, _, chunks, hsource, hfills, hdigest, -⟩
          exact ⟨⟨chunks, Except.ok.inj hsource, hfills⟩, hdigest⟩

/-- The digest, the size and the move of a written file. -/
theorem measureAndMove_decides (faults : Faults) (contentDigest : Checksum) (bytes : Bytes) :
    Decides ((faults.infoSize = none ∧ faults.digestBlob = none) ∧ faults.move = none)
      (Staged start bytes) (measureAndMove tools faults contentDigest)
      (fun written disk => written = tools.written contentDigest bytes ∧ Moved start bytes disk)
      (Kept start) := by
  apply Decides.congr (C := faults.infoSize = none ∧ faults.digestBlob = none ∧ faults.move = none)
  · apply Decides.bind
    · exact (readFile_decides faults.infoSize fun _ hstaged => hstaged.staged).weaken
        (fun _ hpre => hpre) (fun _ _ _ hpost => hpost) fun _ hstaged => hstaged.toKept
    intro _ found
    apply Decides.assume fun _ hpre => hpre.1
    rintro rfl
    apply Decides.bind
    · exact (blobDigestFromFs_decides faults.digestBlob fun _ hstaged => hstaged.staged).weaken
        (fun _ hpre => hpre.2) (fun _ _ _ hpost => hpost) fun _ hstaged => hstaged.toKept
    intro _ digest
    apply Decides.assume fun _ hpre => hpre.1
    rintro rfl
    apply Decides.bind_true
    · exact (moveStaged_decides faults.move).weaken (fun _ hpre => hpre.2)
        (fun _ _ _ hpost => hpost) fun _ hkept => hkept
    intro _ _
    exact .pure trivial fun _ hmoved => ⟨rfl, hmoved⟩
  · exact and_assoc.symm

/-- A Parquet file is staged, measured and moved. -/
theorem stageParquet_decides (faults : Faults) (schema : Schema)
    (batches : Generator Failure Batch) :
    Decides ((∃ bytes digest, StagesParquet tools faults schema batches bytes digest) ∧
        (faults.infoSize = none ∧ faults.digestBlob = none) ∧ faults.move = none) (Kept start)
      (stageParquet tools faults schema batches)
      (fun written disk => ∃ bytes digest, StagesParquet tools faults schema batches bytes digest ∧
        written = tools.written digest bytes ∧ Moved start bytes disk) (Kept start) := by
  apply (writeParquet_decides faults schema batches).bind
  intro _ digest
  apply Decides.of_exists
  intro bytes
  apply Decides.assume fun _ hpre => hpre.1
  intro hstages
  apply (measureAndMove_decides faults digest bytes).weaken (fun _ hpre => hpre.2)
  · rintro - written disk ⟨hwritten, hmoved⟩
    exact ⟨bytes, digest, hstages, hwritten, hmoved⟩
  · exact fun _ hkept => hkept

/-! ## The `try` block of `materialize` -/

section Settling

variable {request : Request tools.stdlib.unicode} {context : Context tools request}

/-- The digest of a published file that may stay is the one of its bytes. -/
theorem probe_eq_some {faults : Faults} {published staged : Bytes} {mediaType checksum : String}
    {stagedDigest : Option String} {digest : Checksum}
    (h : probe tools faults published staged mediaType checksum stagedDigest = some digest) :
    digest = tools.blobDigest published := by
  unfold probe at h
  split_ifs at h <;>
  · cases h
    rfl

theorem existingRecord_decides (faults : Faults)
    (reading : Reading tools.stdlib.unicode Schema Batch) (digest : Checksum) (bytes : Bytes) :
    Decides (reading.storedChecksum = some digest.1 → faults.existsPublished = none)
      (Staged start bytes)
      (existingRecord tools faults context.mediaType digest.1 reading.storedChecksum
        (if context.mode = "raw" then some digest.1 else none))
      (fun existing disk =>
        existing = reading.standing faults context start.published bytes digest ∧
          Staged start bytes disk) (Kept start) := by
  apply Decides.ite
  · intro hother
    apply Decides.pure fun hsame => absurd hsame hother
    exact fun _ hstaged => ⟨by rw [Reading.standing, if_neg hother], hstaged⟩
  · intro hsame
    rw [ne_eq, not_not] at hsame
    apply Decides.congr (C := faults.existsPublished = none)
    · apply Decides.bind_true
      · exact .attempt fun _ hstaged => hstaged.toKept
      intro _ _
      apply Decides.read.true_bind
      intro disk
      apply Decides.assume (A := disk.published = start.published ∧ disk.staged = some bytes)
      · rintro _ ⟨rfl, hstaged⟩
        exact ⟨hstaged.published, hstaged.staged⟩
      rintro ⟨hpublished, hstaged⟩
      rw [hpublished, hstaged]
      cases hfile : start.published with
      | none =>
          apply Decides.pure trivial
          exact fun _ hpre => ⟨by rw [Reading.standing, if_pos hsame]; rfl, hpre.2⟩
      | some published =>
          apply Decides.pure trivial
          exact fun _ hpre => ⟨by rw [Reading.standing, if_pos hsame]; rfl, hpre.2⟩
    · exact ⟨fun hnone _ => hnone, fun hnone => hnone hsame⟩

/-- A published file that may stand for the staged bytes is there, and its digest is known. -/
theorem Reading.eq_of_standing {faults : Faults} {published : Option Bytes} {bytes : Bytes}
    {digest found : Checksum} {reading : Reading tools.stdlib.unicode Schema Batch}
    (hstanding : reading.standing faults context published bytes digest = some found) :
    published = some (reading.described faults context published bytes digest) ∧
      found = tools.blobDigest (reading.described faults context published bytes digest) := by
  have hdescribed : reading.described faults context published bytes digest =
      published.getD bytes := by
    rw [Reading.described, hstanding]
    rfl
  rw [Reading.standing] at hstanding
  split at hstanding
  · obtain ⟨file, hfile, hprobe⟩ := Option.bind_eq_some_iff.mp hstanding
    rw [hdescribed, hfile]
    exact ⟨rfl, probe_eq_some hprobe⟩
  · cases hstanding

theorem Reading.described_of_standing_none {faults : Faults} {published : Option Bytes}
    {bytes : Bytes} {digest : Checksum} {reading : Reading tools.stdlib.unicode Schema Batch}
    (hnone : reading.standing faults context published bytes digest = none) :
    reading.described faults context published bytes digest = bytes := by
  rw [Reading.described, hnone]
  rfl

/-- The stored artifact is handed back when it is one of the same URI and mode. -/
theorem Work.eq_of_current {faults : Faults} {published : Option Bytes}
    {bytes : Bytes} {digest : Checksum} {work : Work tools.stdlib.unicode Schema Batch}
    {stored : Artifact tools.stdlib.unicode}
    (hcurrent : work.current faults context published bytes digest = some stored) :
    stored.uri = sanitizeUri tools.stdlib.unicode context.finalUri ∧
      stored.provenance.materializationMode = context.mode := by
  cases work with
  | reading input =>
      have hsame := (Option.filter_eq_some_iff.mp hcurrent).2
      unfold isCurrentArtifact at hsame
      simp only [Bool.and_eq_true, beq_iff_eq] at hsame
      exact ⟨hsame.1.1.1.1.1, hsame.2⟩
  | stream mode schema batches => cases hcurrent
  | checkpointed startBatchIndex schema items => cases hcurrent

/-- A published file that stays is the one that is described. -/
theorem Work.published_of_standing {faults : Faults} {published : Option Bytes}
    {bytes : Bytes} {digest : Checksum} {work : Work tools.stdlib.unicode Schema Batch}
    (hstanding : work.standing faults context published bytes digest ≠ none) :
    published = some (work.described faults context published bytes digest) := by
  obtain ⟨found, hfound⟩ := Option.ne_none_iff_exists'.mp hstanding
  cases work with
  | reading input => exact (Reading.eq_of_standing hfound).1
  | stream mode schema batches => cases hfound
  | checkpointed startBatchIndex schema items => cases hfound

/-- Otherwise the staged bytes are. -/
theorem Work.described_of_standing {faults : Faults} {published : Option Bytes}
    {bytes : Bytes} {digest : Checksum} {work : Work tools.stdlib.unicode Schema Batch}
    (hstanding : work.standing faults context published bytes digest = none) :
    work.described faults context published bytes digest = bytes := by
  cases work with
  | reading input => exact Reading.described_of_standing_none hstanding
  | stream mode schema batches => rfl
  | checkpointed startBatchIndex schema items => rfl

/-- The file that will be described is there, whichever it is. -/
theorem Reading.describedFile_eq {faults : Faults} {bytes : Bytes} {digest : Checksum} {disk : Disk}
    (reading : Reading tools.stdlib.unicode Schema Batch) (hstaged : Staged start bytes disk) :
    describedFile (reading.standing faults context start.published bytes digest) disk =
      some (reading.described faults context start.published bytes digest) := by
  rw [describedFile]
  cases hstanding : reading.standing faults context start.published bytes digest with
  | none =>
      rw [Reading.described_of_standing_none hstanding]
      exact hstaged.staged
  | some found => exact hstaged.published.trans (Reading.eq_of_standing hstanding).1

/-- The digest of the file that will be described. In raw mode the staged one is known. -/
theorem publishedBlobDigest_decides (faults : Faults)
    (reading : Reading tools.stdlib.unicode Schema Batch) {digest : Checksum} {bytes : Bytes}
    (hraw : context.mode = "raw" → digest = tools.blobDigest bytes) :
    Decides (context.mode ≠ "raw" →
        reading.standing faults context start.published bytes digest = none →
          faults.digestBlob = none)
      (Staged start bytes)
      (publishedBlobDigest tools faults context.mode digest
        (reading.standing faults context start.published bytes digest))
      (fun found disk => found = tools.blobDigest
          (reading.described faults context start.published bytes digest) ∧
        Staged start bytes disk) (Kept start) := by
  cases hstanding : reading.standing faults context start.published bytes digest with
  | some found =>
      apply Decides.pure
      · exact fun _ hnone => nomatch hnone
      · exact fun _ hstaged => ⟨(Reading.eq_of_standing hstanding).2, hstaged⟩
  | none =>
      rw [Reading.described_of_standing_none hstanding]
      apply Decides.ite
      · intro hmode
        apply Decides.pure fun hother => absurd hmode hother
        exact fun _ hstaged => ⟨hraw hmode, hstaged⟩
      · intro hmode
        apply Decides.congr (C := faults.digestBlob = none)
        · exact (blobDigestFromFs_decides faults.digestBlob
            fun _ hstaged => hstaged.staged).weaken (fun _ hpre => hpre)
              (fun _ _ _ hpost => hpost) fun _ hstaged => hstaged.toKept
        · exact ⟨fun hnone _ _ => hnone, fun hnone => hnone hmode rfl⟩

/-- The staged bytes are moved unless the published file may stay. -/
theorem moveUnlessExisting_decides (faults : Faults) (existing : Option Checksum) (bytes : Bytes) :
    Decides (existing = none → faults.move = none) (Staged start bytes)
      (moveUnlessExisting faults existing)
      (fun _ disk => if existing = none then Moved start bytes disk else Kept start disk)
      (Kept start) := by
  cases existing with
  | some found =>
      apply Decides.pure
      · exact fun hnone => nomatch hnone
      · exact fun _ hstaged => by simpa using hstaged.toKept
  | none =>
      apply Decides.congr (C := faults.move = none)
      · exact (moveStaged_decides faults.move).weaken (fun _ hpre => hpre)
          (fun _ _ _ hmoved => by simpa using hmoved) fun _ hkept => hkept
      · exact ⟨fun hnone _ => hnone, fun hnone => hnone rfl⟩

/-- The end of the `try` block over the staged bytes: the stored artifact is handed back and
nothing has changed, or the file at the final URI is the one that was described. -/
def Work.Ended (faults : Faults) (start : Disk) (context : Context tools request) (bytes : Bytes)
    (digest : Checksum) (work : Work tools.stdlib.unicode Schema Batch)
    (ended : Artifact tools.stdlib.unicode ⊕ Written) (disk : Disk) : Prop :=
  match work.current faults context start.published bytes digest with
  | some stored => ended = .inl stored ∧ Kept start disk
  | none =>
      ended = .inr (tools.written digest
        (work.described faults context start.published bytes digest)) ∧
      if work.standing faults context start.published bytes digest = none then
        Moved start bytes disk
      else Kept start disk

theorem settle_decides (faults : Faults) (reading : Reading tools.stdlib.unicode Schema Batch)
    {digest : Checksum} {bytes : Bytes}
    (hraw : context.mode = "raw" → digest = tools.blobDigest bytes) :
    Decides (reading.Measures faults context start.published bytes digest ∧
        (reading.current faults context start.published bytes digest = none →
          reading.standing faults context start.published bytes digest = none →
            faults.move = none))
      (Staged start bytes) (settle tools faults context reading digest)
      ((Work.reading reading).Ended faults start context bytes digest) (Kept start) := by
  apply Decides.congr (C := (reading.storedChecksum = some digest.1 →
      faults.existsPublished = none) ∧ faults.infoSize = none ∧
    (context.mode ≠ "raw" →
      reading.standing faults context start.published bytes digest = none →
        faults.digestBlob = none) ∧
    (reading.current faults context start.published bytes digest = none →
      reading.standing faults context start.published bytes digest = none →
        faults.move = none))
  · apply (existingRecord_decides faults reading digest bytes).bind
    intro _ existing
    apply Decides.assume fun _ hpre => hpre.1
    rintro rfl
    apply Decides.bind
    · exact (readFile_decides faults.infoSize fun _ hstaged =>
        reading.describedFile_eq hstaged).weaken (fun _ hpre => hpre.2)
          (fun _ _ _ hpost => hpost) fun _ hstaged => hstaged.toKept
    intro _ found
    apply Decides.assume fun _ hpre => hpre.1
    rintro rfl
    apply Decides.bind
    · exact (publishedBlobDigest_decides faults reading hraw).weaken (fun _ hpre => hpre.2)
        (fun _ _ _ hpost => hpost) fun _ hkept => hkept
    intro _ blobDigest
    apply Decides.assume fun _ hpre => hpre.1
    rintro rfl
    dsimp only
    split
    next stored hstored =>
      have hcurrent : reading.current faults context start.published bytes digest = some stored :=
        hstored
      rw [hcurrent]
      apply Decides.pure fun hnone => nomatch hnone
      intro disk hpre
      rw [Work.Ended, Work.current, hcurrent]
      exact ⟨rfl, hpre.2.toKept⟩
    next hstored =>
      have hcurrent : reading.current faults context start.published bytes digest = none := hstored
      rw [hcurrent]
      apply Decides.congr (C := reading.standing faults context start.published bytes digest =
        none → faults.move = none)
      · apply Decides.bind_true
        · exact (moveUnlessExisting_decides faults _ bytes).weaken (fun _ hpre => hpre.2)
            (fun _ _ _ hpost => hpost) fun _ hkept => hkept
        intro _ _
        apply Decides.pure trivial
        intro disk hpost
        rw [Work.Ended, Work.current, hcurrent]
        exact ⟨rfl, hpost⟩
      · exact ⟨fun hmoved _ => hmoved, fun hmoved => hmoved rfl⟩
  · constructor
    · rintro ⟨hlooked, hsized, hhashed, hmoved⟩
      exact ⟨⟨hlooked, hsized, hhashed⟩, hmoved⟩
    · rintro ⟨hmeasures, hmoved⟩
      exact ⟨hmeasures.looked, hmeasures.sized, hmeasures.hashed, hmoved⟩

/-! ## The whole `try` block -/

theorem StagesParquet.unique {faults : Faults} {schema : Schema}
    {batches : Generator Failure Batch} {first second : Bytes} {digest other : Checksum}
    (hfirst : StagesParquet tools faults schema batches first digest)
    (hsecond : StagesParquet tools faults schema batches second other) :
    first = second ∧ digest = other := by
  obtain ⟨values, rfl, -, rfl, rfl⟩ := hfirst
  obtain ⟨others, hothers, -, rfl, rfl⟩ := hsecond
  cases ofList_injective hothers
  exact ⟨rfl, rfl⟩

theorem StagesRaw.unique {faults : Faults} {source : Except Failure (Generator Failure Bytes)}
    {first second : Bytes} {digest other : Checksum}
    (hfirst : StagesRaw tools faults source first digest)
    (hsecond : StagesRaw tools faults source second other) : first = second ∧ digest = other := by
  obtain ⟨chunks, rfl, -, -, rfl, rfl⟩ := hfirst
  obtain ⟨others, hothers, -, -, rfl, rfl⟩ := hsecond
  cases ofList_injective (Except.ok.inj hothers)
  exact ⟨rfl, rfl⟩

theorem Reading.Stages.unique {faults : Faults} {unicode : UnicodeData} {mode : String}
    {reading : Reading unicode Schema Batch} {first second : Bytes} {digest other : Checksum}
    (hfirst : reading.Stages tools faults mode first digest)
    (hsecond : reading.Stages tools faults mode second other) :
    first = second ∧ digest = other := by
  unfold Reading.Stages at hfirst hsecond
  split at hfirst
  next hmode =>
    rw [if_pos hmode] at hsecond
    exact hfirst.unique hsecond
  next hmode =>
    rw [if_neg hmode] at hsecond
    obtain ⟨opened, hopened, hstages⟩ := hfirst
    obtain ⟨reopened, hreopened, hagain⟩ := hsecond
    cases hopened.symm.trans hreopened
    exact hstages.unique hagain

/-- What is staged is determined. -/
theorem Work.Stages.unique {faults : Faults} {unicode : UnicodeData} {mode : String}
    {shards : Nat → Option Bytes} {count : Nat} {work : Work unicode Schema Batch}
    {first second : Bytes} {digest other : Checksum}
    (hfirst : work.Stages tools faults mode shards count first digest)
    (hsecond : work.Stages tools faults mode shards count second other) :
    first = second ∧ digest = other := by
  cases work with
  | reading input => exact Reading.Stages.unique hfirst hsecond
  | stream mode schema batches => exact StagesParquet.unique hfirst hsecond
  | checkpointed startBatchIndex schema items => exact StagesParquet.unique hfirst hsecond

/-- A decision over the source, and one over what was staged of it, are one decision over both. -/
theorem exists_staged_iff {stages ends : Bytes → Checksum → Prop} {bytes : Bytes}
    {digest : Checksum} (hstages : stages bytes digest)
    (hunique : ∀ other found, stages other found → bytes = other ∧ digest = found) :
    (∃ other found, stages other found ∧ ends other found) ↔ ends bytes digest := by
  constructor
  · rintro ⟨other, found, hother, hends⟩
    obtain ⟨rfl, rfl⟩ := hunique other found hother
    exact hends
  · exact fun hends => ⟨bytes, digest, hstages, hends⟩

/-- What a reading stages, before it is compared with anything. -/
theorem readStaged_decides (faults : Faults)
    (reading : Reading tools.stdlib.unicode Schema Batch) :
    Decides (∃ bytes digest, reading.Stages tools faults context.mode bytes digest) (Kept start)
      (if context.mode = "raw" then writeRaw tools faults reading.raw
      else do
        let opened ← Durable.ofExcept reading.stream
        writeParquet tools faults opened.1 opened.2)
      (fun digest disk => ∃ bytes, reading.Stages tools faults context.mode bytes digest ∧
        Staged start bytes disk) (Kept start) := by
  apply Decides.ite
  · intro hmode
    simp only [Reading.Stages, if_pos hmode]
    exact writeRaw_decides faults reading.raw
  · intro hmode
    simp only [Reading.Stages, if_neg hmode]
    cases hstream : reading.stream with
    | error failure =>
        apply Decides.fail _ fun _ hkept => hkept
        rintro ⟨_, _, _, ⟨⟩, -⟩
    | ok opened =>
        simp only [Except.ok.injEq, exists_eq_left']
        exact writeParquet_decides faults opened.1 opened.2

/-- The staged bytes of a raw reading are those that were hashed. -/
theorem Reading.Stages.digest_of_raw {faults : Faults} {mode : String}
    {reading : Reading tools.stdlib.unicode Schema Batch} {bytes : Bytes} {digest : Checksum}
    (hstages : reading.Stages tools faults mode bytes digest) (hraw : mode = "raw") :
    digest = tools.blobDigest bytes := by
  rw [Reading.Stages, if_pos hraw] at hstages
  obtain ⟨-, -, -, -, -, hdigest⟩ := hstages
  exact hdigest

/-- The move works unless the stored artifact is handed back or the published file stays. -/
def Work.MoveWorks (faults : Faults) (context : Context tools request) (published : Option Bytes)
    (bytes : Bytes) (digest : Checksum) (work : Work tools.stdlib.unicode Schema Batch) : Prop :=
  work.current faults context published bytes digest = none →
    work.standing faults context published bytes digest = none → faults.move = none

variable (context) in
theorem stage_decides (faults : Faults) (count : Nat)
    (work : Work tools.stdlib.unicode Schema Batch) :
    Decides (∃ bytes digest, work.Stages tools faults context.mode start.shards count bytes digest ∧
        work.Measures faults context start.published bytes digest ∧
        work.MoveWorks faults context start.published bytes digest)
      (fun disk => disk = start) (work.stage tools faults context count)
      (fun ended disk => ∃ bytes digest,
        work.Stages tools faults context.mode start.shards count bytes digest ∧
          work.Ended faults start context bytes digest ended disk) (Kept start) := by
  have hkept : ∀ disk : Disk, disk = start → Kept start disk := by
    rintro _ rfl
    exact (Untouched.refl _).toKept
  have hparquet : ∀ schema batches, Decides (∃ bytes digest,
      StagesParquet tools faults schema batches bytes digest ∧
        (faults.infoSize = none ∧ faults.digestBlob = none) ∧
          ((none : Option (Artifact tools.stdlib.unicode)) = none →
            (none : Option Checksum) = none → faults.move = none)) (fun disk => disk = start)
      (do pure (.inr (← stageParquet tools faults schema batches)))
      (fun ended disk => ∃ bytes digest,
        StagesParquet tools faults schema batches bytes digest ∧
          (ended : Artifact tools.stdlib.unicode ⊕ Written) = .inr (tools.written digest bytes) ∧
            if (none : Option Checksum) = none then Moved start bytes disk else Kept start disk)
      (Kept start) := by
    intro schema batches
    apply Decides.congr
    · apply Decides.bind_true ((stageParquet_decides faults schema batches).weaken hkept
        (fun _ _ _ hpost => hpost) fun _ hfailed => hfailed)
      intro _ written
      apply Decides.pure trivial
      rintro disk ⟨bytes, digest, hstages, rfl, hmoved⟩
      exact ⟨bytes, digest, hstages, rfl, hmoved⟩
    · simp only [exists_and_right, forall_const]
  cases work with
  | reading input =>
      apply Decides.congr (C := (∃ bytes digest,
          input.Stages tools faults context.mode bytes digest) ∧
        ∃ bytes digest, input.Stages tools faults context.mode bytes digest ∧
          (Work.reading input).Measures faults context start.published bytes digest ∧
          (Work.reading input).MoveWorks faults context start.published bytes digest)
      · apply Decides.bind ((readStaged_decides faults input).weaken hkept
          (fun _ _ _ hpost => hpost) fun _ hfailed => hfailed)
        intro _ digest
        apply Decides.of_exists
        intro bytes
        apply Decides.assume fun _ hpre => hpre.1
        intro hstages
        apply Decides.congr _ (exists_staged_iff hstages fun _ _ => (hstages.unique ·)).symm
        apply (settle_decides faults input hstages.digest_of_raw).weaken (fun _ hpre => hpre.2)
        · exact fun _ _ _ hended => ⟨bytes, digest, hstages, hended⟩
        · exact fun _ hkept => hkept
      · exact and_iff_right_of_imp fun ⟨bytes, digest, hboth⟩ => ⟨bytes, digest, hboth.1⟩
  | stream mode schema batches => exact hparquet schema batches
  | checkpointed startBatchIndex schema items =>
      apply Decides.read.true_bind
      intro disk
      apply Decides.assume (A := disk = start)
      · rintro _ ⟨rfl, rfl⟩
        rfl
      rintro rfl
      exact (hparquet schema _).weaken (fun _ hpre => hpre.2) (fun _ _ _ hpost => hpost)
        fun _ hfailed => hfailed

end Settling

end Operations

end DataSluice.Sync.Materialize
