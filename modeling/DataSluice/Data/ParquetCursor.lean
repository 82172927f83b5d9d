/-
# Resuming a Parquet file

The row groups of a Parquet file on local or object storage are read one by one, each as
one batch. A group without rows is passed over by the reader, so the stream numbers the
batches by themselves and takes the physical position from the reader.
`open_from_cursor` opens the same file at a cursor that an earlier stream gave out.

Both ways of opening pull the first batch for its schema before the stream is handed
out. A file that cannot be read there fails while it is opened and not while it is
iterated; `consume` puts the two together.
-/

import DataSluice.Data.BatchStream

namespace DataSluice.Data

open DataSluice.Lib

/-- A batch of rows under a schema. -/
structure RowBatch (Schema Row : Type) where
  schema : Schema
  rows : List Row

/-- What opening and reading a resource may raise. -/
inductive AccessError
  | format (message : String)
  | unsupported (message : String)
  | batchSize
  | io (message : String)
  deriving DecidableEq

/-- A Parquet file, with what reading each of its row groups gives. -/
structure ParquetFile (Schema Row : Type) where
  schema : Schema
  rowGroups : List (Except AccessError (List Row))

/-- A byte source. -/
structure ByteSource (Schema Row : Type) where
  /-- The bytes it starts with, six at most. -/
  magic : List UInt8
  seekable : Bool
  contentEncoding : Option String
  /-- What `ParquetFile` makes of it. -/
  parquet : Except AccessError (ParquetFile Schema Row)

/-- `ResourceAccess.kind` -/
inductive AccessKind
  | httpDownload
  | objectStorage
  | localFile
  | query
  | stream
  deriving DecidableEq

/-- A resource, and what opening its bytes gives. -/
structure Resource (Schema Row : Type) where
  format : Option String
  kind : AccessKind
  source : Except AccessError (ByteSource Schema Row)

/-- Streams of Parquet batches. -/
abbrev ParquetStream (Schema Row : Type) := BatchStream AccessError Schema (RowBatch Schema Row)

variable {Schema Row : Type}

/-! ## The reader -/

/-- `_read_row_group`, which makes one batch of all rows, and the loop around it. -/
def rowGroupLoop (schema : Schema) :
    Nat → List (Except AccessError (List Row)) → Batches AccessError (Nat × RowBatch Schema Row)
  | _, [] => .stop
  | _, .error error :: _ => .raise (.source error)
  | index, .ok rows :: groups =>
      if 0 < rows.length then .yield (index, ⟨schema, rows⟩) (rowGroupLoop schema (index + 1) groups)
      else rowGroupLoop schema (index + 1) groups

/-- `read_batches_from_row_group` -/
def readBatchesFromRowGroup (source : ByteSource Schema Row) (startRowGroupIndex : Nat) :
    Batches AccessError (Nat × RowBatch Schema Row) :=
  if source.seekable = false then
    .raise (.source (.format
      "Parquet continuation requires a seekable local-file or object-storage source"))
  else
    match source.parquet with
    | .error error => .raise (.source error)
    | .ok file =>
        if file.rowGroups.length < startRowGroupIndex then
          .raise (.source (.format s!"Parquet continuation row group {startRowGroupIndex} exceeds footer count {file.rowGroups.length}"))
        else rowGroupLoop file.schema startRowGroupIndex (file.rowGroups.drop startRowGroupIndex)

/-! ## Opening -/

section Opening

variable [Inhabited Schema]

/-- `_build_parquet_cursor_stream`. Without a batch the schema is the one of the footer;
the default stands for the empty schema. -/
def buildParquetCursorStream (source : ByteSource Schema Row)
    (startRowGroupIndex startBatchIndex : Nat) :
    Except (StreamError AccessError) (ParquetStream Schema Row) :=
  match readBatchesFromRowGroup source startRowGroupIndex with
  | .raise error => .error error
  | .stop => .ok
      { source := .indexed .stop
        schema :=
          match source.parquet with
          | .ok file => file.schema
          | .error _ => default
        startBatchIndex := startBatchIndex
        startRowGroupIndex := startRowGroupIndex }
  | .yield first rest => .ok
      { source := .indexed (.yield first rest)
        schema := first.2.schema
        startBatchIndex := startBatchIndex
        startRowGroupIndex := startRowGroupIndex }

/-- `_detect_format` without a content encoding, against `"none"`. -/
def isCompressed (magic : List UInt8) : Bool :=
  [[0x1f, 0x8b], [0x42, 0x5a, 0x68], [0x28, 0xb5, 0x2f, 0xfd], [0x50, 0x4b, 0x03, 0x04]].any
    fun signature => signature.isPrefixOf magic

/-- `_open_checkpointable_parquet` -/
def openCheckpointableParquet (source : ByteSource Schema Row) :
    Except (StreamError AccessError) (ParquetStream Schema Row) :=
  if source.contentEncoding.isSome then
    .error (.source (.unsupported "Checkpointable Parquet must not be transport-compressed"))
  else if isCompressed source.magic then
    .error (.source (.unsupported "Checkpointable Parquet must not be compressed"))
  else buildParquetCursorStream source 0 0

/-- Whether the format of a resource is PARQUET, in any case. No character outside ASCII
has one of its letters as upper case. -/
def Resource.isParquet (resource : Resource Schema Row) : Bool :=
  (resource.format.getD "").toList.map Char.toUpper == "PARQUET".toList

/-- The kinds of access a Parquet file is resumed over. -/
def AccessKind.isResumable (kind : AccessKind) : Bool :=
  kind == .localFile || kind == .objectStorage

/-- `open`. A resource that is not a Parquet file on local or object storage goes to the
readers of downloads and of other formats; what these give is `other`. -/
def openResource (resource : Resource Schema Row) (batchSize : Int)
    (other : ByteSource Schema Row → Except (StreamError AccessError) (ParquetStream Schema Row)) :
    Except (StreamError AccessError) (ParquetStream Schema Row) :=
  if batchSize ≤ 0 then .error (.source .batchSize)
  else
    match resource.source with
    | .error error => .error (.source error)
    | .ok source =>
        if resource.isParquet && resource.kind.isResumable then openCheckpointableParquet source
        else other source

/-- `open_from_cursor` -/
def openFromCursor (resource : Resource Schema Row) (cursor : BatchCursor) (batchSize : Int) :
    Except (StreamError AccessError) (ParquetStream Schema Row) :=
  if batchSize ≤ 0 then .error (.source .batchSize)
  else if !resource.isParquet then
    .error (.source (.unsupported "Continuation supports only PARQUET resources"))
  else if !resource.kind.isResumable then
    .error (.source (.unsupported "Continuation requires local_file or object_storage access"))
  else
    match resource.source with
    | .error error => .error (.source error)
    | .ok source =>
        if source.contentEncoding.isSome then
          .error (.source (.unsupported "Continuation for compressed Parquet is not supported"))
        else
          buildParquetCursorStream source cursor.position.rowGroupIndex cursor.nextBatchIndex

/-- Open a stream and iterate over it with its cursors. -/
def consume (opened : Except (StreamError AccessError) (ParquetStream Schema Row)) :
    Batches AccessError (RowBatch Schema Row × BatchCursor) :=
  match opened with
  | .error error => .raise error
  | .ok stream => stream.iterBatchesWithCursors

/-- Pulling the first batch early changes nothing but the place of an exception. -/
theorem consume_buildParquetCursorStream (source : ByteSource Schema Row)
    (startRowGroupIndex startBatchIndex : Nat) :
    consume (buildParquetCursorStream source startRowGroupIndex startBatchIndex) =
      BatchStream.indexedCursors startBatchIndex startRowGroupIndex
        (readBatchesFromRowGroup source startRowGroupIndex) := by
  unfold buildParquetCursorStream
  cases readBatchesFromRowGroup source startRowGroupIndex with
  | stop => rfl
  | raise error => rfl
  | yield first rest => rfl

end Opening

/-! ## The pairs of one file -/

section Pairs

open BatchStream

variable (schema : Schema)

/-- The pairs that a stream yields over row groups which start at `index`. -/
def cursorLoop (nextBatchIndex index : Nat) (groups : List (Except AccessError (List Row))) :
    Batches AccessError (RowBatch Schema Row × BatchCursor) :=
  indexedCursors nextBatchIndex index (rowGroupLoop schema index groups)

/-- The physical indexes of the reader increase, so the least index that is allowed does
not matter. -/
theorem indexedCursors_rowGroupLoop {first second index : Nat} (hfirst : first ≤ index)
    (hsecond : second ≤ index) (nextBatchIndex : Nat)
    (groups : List (Except AccessError (List Row))) :
    indexedCursors nextBatchIndex first (rowGroupLoop schema index groups) =
      indexedCursors nextBatchIndex second (rowGroupLoop schema index groups) := by
  induction groups generalizing index with
  | nil => rfl
  | cons group groups ih =>
      cases group with
      | error error => rfl
      | ok rows =>
          rw [rowGroupLoop]
          split
          · rw [indexedCursors, indexedCursors, if_neg (Nat.not_lt_of_le hfirst),
              if_neg (Nat.not_lt_of_le hsecond)]
          · exact ih (Nat.le_succ_of_le hfirst) (Nat.le_succ_of_le hsecond)

/-- A group with rows is yielded with the cursor behind it. -/
theorem cursorLoop_of_rows (nextBatchIndex index : Nat) {rows : List Row}
    (groups : List (Except AccessError (List Row))) (hrows : 0 < rows.length) :
    cursorLoop schema nextBatchIndex index (.ok rows :: groups) =
      .yield (⟨schema, rows⟩, ⟨nextBatchIndex + 1, ⟨index + 1⟩⟩)
        (cursorLoop schema (nextBatchIndex + 1) (index + 1) groups) := by
  unfold cursorLoop
  rw [rowGroupLoop, if_pos hrows, indexedCursors, if_neg (Nat.lt_irrefl index)]

/-- A group without rows is passed over. -/
theorem cursorLoop_of_empty (nextBatchIndex index : Nat) {rows : List Row}
    (groups : List (Except AccessError (List Row))) (hrows : ¬ 0 < rows.length) :
    cursorLoop schema nextBatchIndex index (.ok rows :: groups) =
      cursorLoop schema nextBatchIndex (index + 1) groups := by
  rw [cursorLoop, rowGroupLoop, if_neg hrows]
  exact indexedCursors_rowGroupLoop schema (Nat.le_succ index) (Nat.le_refl _) nextBatchIndex
    groups

/-- Behind a yielded pair comes what the row groups from its cursor on give. -/
theorem rest_eq_cursorLoop (groups : List (Except AccessError (List Row)))
    (nextBatchIndex index : Nat) (seen : List (RowBatch Schema Row × BatchCursor))
    (last : RowBatch Schema Row × BatchCursor)
    (rest : Batches AccessError (RowBatch Schema Row × BatchCursor))
    (hpairs : cursorLoop schema nextBatchIndex index groups =
      Generator.prepend (seen ++ [last]) rest) :
    ∃ count ≤ groups.length, last.2.position.rowGroupIndex = index + count ∧
      rest = cursorLoop schema last.2.nextBatchIndex (index + count) (groups.drop count) := by
  induction groups generalizing nextBatchIndex index seen with
  | nil => cases seen <;> cases hpairs
  | cons group groups ih =>
      cases group with
      | error error => cases seen <;> cases hpairs
      | ok rows =>
          by_cases hrows : 0 < rows.length
          · rw [cursorLoop_of_rows schema nextBatchIndex index groups hrows] at hpairs
            cases seen with
            | nil =>
                cases hpairs
                exact ⟨1, Nat.succ_le_succ (Nat.zero_le _), rfl, rfl⟩
            | cons first seen =>
                injection hpairs with _ hrest
                obtain ⟨count, hcount, hposition, hsame⟩ := ih _ _ seen hrest
                have hindex : index + 1 + count = index + (count + 1) := by omega
                rw [hindex] at hposition hsame
                exact ⟨count + 1, Nat.succ_le_succ hcount, hposition, hsame⟩
          · rw [cursorLoop_of_empty schema nextBatchIndex index groups hrows] at hpairs
            obtain ⟨count, hcount, hposition, hsame⟩ := ih _ _ seen hpairs
            have hindex : index + 1 + count = index + (count + 1) := by omega
            rw [hindex] at hposition hsame
            exact ⟨count + 1, Nat.succ_le_succ hcount, hposition, hsame⟩

/-- The groups with rows, each with its physical index. -/
def nonEmptyGroups (index : Nat) (groups : List (Except AccessError (List Row))) :
    List (List Row × Nat) :=
  (groups.zipIdx index).filterMap fun group =>
    match group.1 with
    | .ok rows => if 0 < rows.length then some (rows, group.2) else none
    | .error _ => none

/-- Batches are numbered one after the other. -/
theorem nextBatchIndex_cursorLoop (nextBatchIndex index : Nat)
    (groups : List (Except AccessError (List Row))) :
    (cursorLoop schema nextBatchIndex index groups).values.map (·.2.nextBatchIndex) =
      List.range' (nextBatchIndex + 1)
        (cursorLoop schema nextBatchIndex index groups).values.length := by
  induction groups generalizing nextBatchIndex index with
  | nil => rfl
  | cons group groups ih =>
      cases group with
      | error error => rfl
      | ok rows =>
          by_cases hrows : 0 < rows.length
          · rw [cursorLoop_of_rows schema nextBatchIndex index groups hrows, Generator.values,
              List.map_cons, List.length_cons, List.range'_succ, ih]
          · rw [cursorLoop_of_empty schema nextBatchIndex index groups hrows, ih]

/-- Positions only grow: each lies behind the ones before it. -/
theorem rowGroupIndex_cursorLoop (nextBatchIndex index : Nat)
    (groups : List (Except AccessError (List Row))) :
    ((cursorLoop schema nextBatchIndex index groups).values.map
        (·.2.position.rowGroupIndex)).Pairwise (· < ·) ∧
      ∀ pair ∈ (cursorLoop schema nextBatchIndex index groups).values,
        index < pair.2.position.rowGroupIndex := by
  induction groups generalizing nextBatchIndex index with
  | nil => exact ⟨.nil, fun pair hpair => absurd hpair List.not_mem_nil⟩
  | cons group groups ih =>
      cases group with
      | error error => exact ⟨.nil, fun pair hpair => absurd hpair List.not_mem_nil⟩
      | ok rows =>
          by_cases hrows : 0 < rows.length
          · rw [cursorLoop_of_rows schema nextBatchIndex index groups hrows, Generator.values,
              List.map_cons, List.pairwise_cons]
            obtain ⟨hsorted, hbehind⟩ := ih (nextBatchIndex + 1) (index + 1)
            constructor
            · constructor
              · intro position hposition
                obtain ⟨pair, hpair, rfl⟩ := List.mem_map.mp hposition
                exact hbehind pair hpair
              · exact hsorted
            · intro pair hpair
              cases hpair with
              | head => exact Nat.lt_succ_self index
              | tail _ hlater => exact Nat.lt_of_succ_lt (hbehind pair hlater)
          · rw [cursorLoop_of_empty schema nextBatchIndex index groups hrows]
            obtain ⟨hsorted, hbehind⟩ := ih nextBatchIndex (index + 1)
            exact ⟨hsorted, fun pair hpair => Nat.lt_of_succ_lt (hbehind pair hpair)⟩

/-- A stream that is read to its end yields every group with rows once, in order. -/
theorem rows_cursorLoop (nextBatchIndex index : Nat)
    (groups : List (Except AccessError (List Row)))
    (hreturns : (cursorLoop schema nextBatchIndex index groups).fails = false) :
    (cursorLoop schema nextBatchIndex index groups).values.map
        (fun pair => (pair.1.rows, pair.2.position.rowGroupIndex)) =
      (nonEmptyGroups index groups).map fun group => (group.1, group.2 + 1) := by
  induction groups generalizing nextBatchIndex index with
  | nil => rfl
  | cons group groups ih =>
      cases group with
      | error error => cases hreturns
      | ok rows =>
          rw [nonEmptyGroups, List.zipIdx_cons, List.filterMap_cons]
          by_cases hrows : 0 < rows.length
          · rw [cursorLoop_of_rows schema nextBatchIndex index groups hrows] at hreturns ⊢
            simp only [if_pos hrows, List.map_cons, Generator.values]
            rw [ih _ _ hreturns]
            rfl
          · rw [cursorLoop_of_empty schema nextBatchIndex index groups hrows] at hreturns ⊢
            simp only [if_neg hrows]
            exact ih _ _ hreturns

/-- A stream over groups that can all be read comes to its end. -/
theorem fails_cursorLoop (nextBatchIndex index : Nat)
    {groups : List (Except AccessError (List Row))}
    (hgroups : ∀ group ∈ groups, ∃ rows, group = .ok rows) :
    (cursorLoop schema nextBatchIndex index groups).fails = false := by
  induction groups generalizing nextBatchIndex index with
  | nil => rfl
  | cons group groups ih =>
      obtain ⟨rows, rfl⟩ := hgroups group List.mem_cons_self
      have hlater : ∀ group ∈ groups, ∃ rows, group = .ok rows := fun group hgroup =>
        hgroups group (List.mem_cons_of_mem _ hgroup)
      by_cases hrows : 0 < rows.length
      · rw [cursorLoop_of_rows schema nextBatchIndex index groups hrows]
        exact ih (nextBatchIndex + 1) (index + 1) hlater
      · rw [cursorLoop_of_empty schema nextBatchIndex index groups hrows]
        exact ih nextBatchIndex (index + 1) hlater

end Pairs

/-! ## Resuming -/

/-- The bytes are those of a Parquet file all of whose row groups can be read, as they are. -/
structure ByteSource.Holds (source : ByteSource Schema Row) (file : ParquetFile Schema Row) :
    Prop where
  seekable : source.seekable = true
  unencoded : source.contentEncoding = none
  uncompressed : isCompressed source.magic = false
  parquet : source.parquet = .ok file
  readable : ∀ group ∈ file.rowGroups, ∃ rows, group = .ok rows

section Resume

variable [Inhabited Schema] (resource : Resource Schema Row) (batchSize : Int)

/-- Opening a Parquet file either fails, and yields nothing, or reads its row groups from
the first one on. -/
theorem consume_openResource
    (other : ByteSource Schema Row → Except (StreamError AccessError) (ParquetStream Schema Row))
    (hparquet : resource.isParquet = true) (hkind : resource.kind.isResumable = true) :
    (∃ error, consume (openResource resource batchSize other) = .raise error) ∨
      ∃ source file, 0 < batchSize ∧ resource.source = .ok source ∧ source.seekable = true ∧
        source.contentEncoding = none ∧ source.parquet = .ok file ∧
        consume (openResource resource batchSize other) =
          cursorLoop file.schema 0 0 file.rowGroups := by
  unfold openResource
  split
  · exact .inl ⟨_, rfl⟩
  · next hbatch =>
      cases hsource : resource.source with
      | error error => exact .inl ⟨_, rfl⟩
      | ok source =>
          simp only [hparquet, hkind, Bool.and_self, if_true]
          unfold openCheckpointableParquet
          split
          · exact .inl ⟨_, rfl⟩
          · next hencoding =>
              split
              · exact .inl ⟨_, rfl⟩
              · rw [consume_buildParquetCursorStream]
                unfold readBatchesFromRowGroup
                split
                · exact .inl ⟨_, rfl⟩
                · next hseekable =>
                    cases hfile : source.parquet with
                    | error error => exact .inl ⟨_, rfl⟩
                    | ok file =>
                        refine .inr ⟨source, file, Int.not_le.mp hbatch, rfl, ?_, ?_, hfile, rfl⟩
                        · simpa using hseekable
                        · simpa using hencoding

/-- A resource that can be read is opened and read to its end. -/
theorem fails_openResource
    (other : ByteSource Schema Row → Except (StreamError AccessError) (ParquetStream Schema Row))
    (hparquet : resource.isParquet = true) (hkind : resource.kind.isResumable = true)
    {source : ByteSource Schema Row} {file : ParquetFile Schema Row} (hbatch : 0 < batchSize)
    (hsource : resource.source = .ok source) (hholds : source.Holds file) :
    (consume (openResource resource batchSize other)).fails = false := by
  have hopened : consume (openResource resource batchSize other) =
      cursorLoop file.schema 0 0 file.rowGroups := by
    unfold openResource openCheckpointableParquet
    rw [if_neg (Int.not_le.mpr hbatch)]
    simp only [hsource, hparquet, hkind, Bool.and_self, if_true, hholds.unencoded,
      Option.isSome_none, hholds.uncompressed, Bool.false_eq_true, if_false]
    rw [consume_buildParquetCursorStream, readBatchesFromRowGroup, hholds.seekable,
      hholds.parquet]
    rfl
  rw [hopened]
  exact fails_cursorLoop file.schema 0 0 hholds.readable

/-- Opening at a cursor reads the row groups from its position on. -/
theorem consume_openFromCursor {source : ByteSource Schema Row} {file : ParquetFile Schema Row}
    (cursor : BatchCursor) (hparquet : resource.isParquet = true)
    (hkind : resource.kind.isResumable = true) (hbatch : 0 < batchSize)
    (hsource : resource.source = .ok source) (hseekable : source.seekable = true)
    (hencoding : source.contentEncoding = none) (hfile : source.parquet = .ok file)
    (hposition : cursor.position.rowGroupIndex ≤ file.rowGroups.length) :
    consume (openFromCursor resource cursor batchSize) =
      cursorLoop file.schema cursor.nextBatchIndex cursor.position.rowGroupIndex
        (file.rowGroups.drop cursor.position.rowGroupIndex) := by
  unfold openFromCursor
  rw [if_neg (Int.not_le.mpr hbatch), hparquet, hkind]
  simp only [hsource, hencoding, Bool.not_true, Bool.false_eq_true, if_false, Option.isSome_none]
  rw [consume_buildParquetCursorStream, readBatchesFromRowGroup, hseekable, hfile]
  simp only [Bool.true_eq_false, if_false, if_neg (Nat.not_lt_of_le hposition)]
  rfl

/-- Whatever a stream over a Parquet file has yielded, opening the file at the last cursor
yields exactly what the stream would have gone on with. The batches are numbered
consecutively, the positions increase, and a stream that is read to its end yields every
row group with rows exactly once: so does every stream over a file that can be read, for a
positive batch size. -/
theorem parquet_resume_exact
    (other : ByteSource Schema Row → Except (StreamError AccessError) (ParquetStream Schema Row))
    (hparquet : resource.isParquet = true) (hkind : resource.kind.isResumable = true) :
    (∀ seen last rest,
        consume (openResource resource batchSize other) =
          Generator.prepend (seen ++ [last]) rest →
        consume (openFromCursor resource last.2 batchSize) = rest) ∧
      (consume (openResource resource batchSize other)).values.map (·.2.nextBatchIndex) =
        List.range' 1 (consume (openResource resource batchSize other)).values.length ∧
      ((consume (openResource resource batchSize other)).values.map
        (·.2.position.rowGroupIndex)).Pairwise (· < ·) ∧
      (∀ source file, resource.source = .ok source → source.parquet = .ok file →
        (consume (openResource resource batchSize other)).fails = false →
        (consume (openResource resource batchSize other)).values.map
            (fun pair => (pair.1.rows, pair.2.position.rowGroupIndex)) =
          (nonEmptyGroups 0 file.rowGroups).map fun group => (group.1, group.2 + 1)) ∧
      ∀ source file, 0 < batchSize → resource.source = .ok source → source.Holds file →
        (consume (openResource resource batchSize other)).fails = false := by
  have hreads : ∀ source file, 0 < batchSize → resource.source = .ok source →
      source.Holds file → (consume (openResource resource batchSize other)).fails = false :=
    fun source file hbatch hsource hholds =>
      fails_openResource resource batchSize other hparquet hkind hbatch hsource hholds
  rcases consume_openResource resource batchSize other hparquet hkind with
    ⟨error, hraised⟩ | ⟨source, file, hbatch, hsource, hseekable, hencoding, hfile, hopened⟩
  · rw [hraised] at hreads ⊢
    refine ⟨fun seen last rest hpairs => ?_, rfl, .nil, fun _ _ _ _ hreturns => ?_, hreads⟩
    · cases seen <;> cases hpairs
    · cases hreturns
  · rw [hopened] at hreads ⊢
    refine ⟨fun seen last rest hpairs => ?_, nextBatchIndex_cursorLoop file.schema 0 0 _,
      (rowGroupIndex_cursorLoop file.schema 0 0 _).1, ?_, hreads⟩
    · obtain ⟨count, hcount, hposition, hrest⟩ :=
        rest_eq_cursorLoop file.schema file.rowGroups 0 0 seen last rest hpairs
      rw [Nat.zero_add] at hposition hrest
      rw [consume_openFromCursor resource batchSize last.2 hparquet hkind hbatch hsource hseekable
        hencoding hfile (hposition ▸ hcount), hposition, hrest]
    · intro source' file' hsource' hfile' hreturns
      rw [hsource] at hsource'
      cases hsource'
      rw [hfile] at hfile'
      cases hfile'
      exact rows_cursorLoop file.schema 0 0 _ hreturns

/-- A local file whose middle group has no rows. -/
def emptyMiddle : Resource Unit Nat where
  format := some "parquet"
  kind := .localFile
  source := .ok ⟨[0x50, 0x41, 0x52, 0x31], true, none, .ok ⟨(), [.ok [1, 2], .ok [], .ok [3]]⟩⟩

/-- After the first batch of such a file the third group is left. -/
theorem parquet_resume_exact_emptyMiddle :
    consume (openFromCursor emptyMiddle ⟨1, ⟨1⟩⟩ 65536) =
      .yield (⟨(), [3]⟩, ⟨2, ⟨3⟩⟩) .stop :=
  (parquet_resume_exact emptyMiddle 65536 (fun _ => .error (.source .batchSize)) (by decide)
    (by decide)).1 [] (⟨(), [1, 2]⟩, ⟨1, ⟨1⟩⟩) _ rfl

end Resume

end DataSluice.Data
