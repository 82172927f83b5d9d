/-
# Opening resources

A resource is opened in steps: its source is acquired, the first bytes are looked at, what is
compressed is wrapped, and a reader takes the first batch. From the moment a source is acquired
someone has to close it: whoever gets the stream, or the function that raises.

What the steps answer is the environment. What is known of a run is which calls were made, so
that it can be said whether the source was closed.
-/

import DataSluice.Data.ByteReaders
import DataSluice.Lib.Agreement
import DataSluice.Runtime.Errors

namespace DataSluice.Data.Access

open DataSluice.Lib DataSluice.Runtime DataSluice.Data.ByteReaders

/-! ## Resources and sources -/

/-- The `kind` of an access descriptor. -/
inductive AccessKind
  | httpDownload
  | objectStorage
  | localFile
  | query (endpoint : String)
  | stream
  | other (kind : String)
  deriving DecidableEq

/-- The text of a kind. -/
def AccessKind.name : AccessKind → String
  | .httpDownload => "http_download"
  | .objectStorage => "object_storage"
  | .localFile => "local_file"
  | .query _ => "query"
  | .stream => "stream"
  | .other kind => kind

/-- What is read of a `Resource`. -/
structure Resource where
  id : String
  format : Option String
  url : Option String
  access : Option AccessKind

/-- What the text of Python does. -/
structure TextOps where
  upper : String → String
  strip : String → String
  /-- `lower().strip()` -/
  folded : String → String
  /-- `repr` -/
  quoted : String → String

/-- The source that was acquired. -/
inductive SourceKind
  | /-- An open file, local or of an object storage. -/
    file
  | /-- The bytes of a response that was read as a whole. -/
    memory
  | /-- A `_StreamClosingBytesIO`: whether its response has a method `close`, and whether it
    leaves a context that was entered. -/
    response (hasClose context : Bool)
  deriving DecidableEq

/-- The formats of `_detect_format`. -/
inductive Compression
  | gzip
  | bzip2
  | zstd
  | zip
  | none
  deriving DecidableEq

/-- The source, or what it was wrapped in. -/
inductive Reader
  | source
  | /-- A `PeekableReader` over the source. -/
    peekable
  | /-- A decompressor of the standard library, which owns the `PeekableReader`. -/
    translating (format : Compression)
  | /-- A reader of `zstandard`, which closes what it reads from. -/
    zstandard
  | /-- The extracted member of an archive. -/
    member
  deriving DecidableEq

/-- The calls that return nothing, or nothing that matters. -/
inductive Action
  | openFile (kind : AccessKind)
  | /-- Whether the response that is entered has a method `close`. -/
    enterContext (hasClose : Bool)
  | iterate
  | readBody
  | rewind
  | construct (format : Compression)
  | extract
  | getReader
  | readSchema
  | closeDecoder (format : Compression)
  | /-- `close()` of the generator that a stream takes its batches from. -/
    closeBatches
  | closeFile
  | closeResponse
  | exitContext
  deriving DecidableEq

/-- The calls that are made while a resource is opened or closed. -/
inductive AccessOp
  | act (action : Action)
  | /-- The request: whether the response is streamed, and its content encoding. -/
    download
  | read (size : Nat)
  | hasZstandard
  | /-- Whether there is a batch. -/
    nextBatch

/-- What they return. -/
def AccessOp.Reply : AccessOp → Type
  | .act _ => Unit
  | .download => Bool × Option String
  | .read _ => Bytes
  | .hasZstandard => Bool
  | .nextBatch => Bool

/-- What they return or raise. -/
abbrev Answer (op : AccessOp) : Type := Except Raised op.Reply

/-- The `_stream_closed` of the source, and the `_closed` of the `PeekableReader` and of the
`BatchStream`. -/
structure Flags where
  streamClosed : Bool := false
  peekableClosed : Bool := false
  batchStreamClosed : Bool := false

/-- The calls so far, and the flags. -/
abbrev AccessWorld : Type := World Answer Flags

/-- `UnsupportedAccessError`, `DecompressionError` and the like. -/
def accessError (message : String) : Raised := { errorClass := .exception, message }

/-- The `BatchStream` that is returned: the source it is over, whether its batches come from a
generator (the iterator of a stream without batches has no method `close`), and its
`_closeables`. -/
structure Opened where
  kind : SourceKind
  hasBatches : Bool
  closeables : List Reader

/-! ## Formats -/

/-- `bytes.startswith` -/
def startsWith (magic front : Bytes) : Bool := front.isPrefixOf magic

/-- `_detect_format`, given the folded content encoding. -/
def detectFormat (magic : Bytes) (encoding : String) : Compression :=
  if startsWith magic [0x1f, 0x8b] = true ∨ encoding ∈ ["gzip", "x-gzip"] then .gzip
  else if startsWith magic [0x42, 0x5a, 0x68] = true ∨ encoding ∈ ["bzip2", "bz2", "x-bzip2"] then
    .bzip2
  else if startsWith magic [0x28, 0xb5, 0x2f, 0xfd] = true ∨ encoding = "zstd" then .zstd
  else if startsWith magic [0x50, 0x4b, 0x03, 0x04] = true ∨ encoding ∈ ["zip", "x-zip"] then .zip
  else .none

/-- `container_format` -/
def containerFormat (magic : Bytes) : Option String :=
  if startsWith magic [0x50, 0x4b, 0x03, 0x04] = true then some "zip"
  else if startsWith magic [0x50, 0x41, 0x52, 0x31] = true then some "parquet"
  else none

section Operations

variable (environment : Environment Answer) (text : TextOps)

def act (action : Action) : Effect AccessWorld Raised Unit := ask environment (.act action)

def download : Effect AccessWorld Raised (Bool × Option String) := ask environment .download

def read (size : Nat) : Effect AccessWorld Raised Bytes := ask environment (.read size)

def hasZstandard : Effect AccessWorld Raised Bool := ask environment .hasZstandard

def nextBatch : Effect AccessWorld Raised Bool := ask environment .nextBatch

/-! ### Closing -/

/-- `try: … except Exception as exc: …`: the exception, if there is one. -/
def attempted (program : Effect AccessWorld Raised Unit) :
    Effect AccessWorld Raised (Option Raised) :=
  Effect.tryExcept (do program; return none) fun error =>
    if error.isException = true then return some error else Effect.raise error

/-- The same where there is something to try. -/
def attemptedIf (condition : Bool) (program : Effect AccessWorld Raised Unit) :
    Effect AccessWorld Raised (Option Raised) :=
  if condition = true then attempted program else return none

/-- `if first_exc is not None: raise first_exc` -/
def raiseFirst : Option Raised → Effect AccessWorld Raised Unit
  | some error => Effect.raise error
  | none => return ()

/-- `_StreamClosingBytesIO.close`, when it is not closed yet. -/
def closeStream (hasClose context : Bool) : Effect AccessWorld Raised Unit := do
  setLocals fun flags => { flags with streamClosed := true }
  let first ← attemptedIf hasClose (act environment .closeResponse)
  let second ← attemptedIf context (act environment .exitContext)
  raiseFirst (first.or second)

/-- `source.close()` -/
def closeSource : SourceKind → Effect AccessWorld Raised Unit
  | .file => act environment .closeFile
  | .memory => return ()
  | .response hasClose context => do
      if (← readLocals).streamClosed = true then return ()
      else closeStream environment hasClose context

/-- `PeekableReader.close` -/
def closePeekable (kind : SourceKind) : Effect AccessWorld Raised Unit := do
  if (← readLocals).peekableClosed = true then return ()
  else
    setLocals fun flags => { flags with peekableClosed := true }
    closeSource environment kind

/-- `close()` of what a source was wrapped in. -/
def closeReader (kind : SourceKind) : Reader → Effect AccessWorld Raised Unit
  | .source => closeSource environment kind
  | .peekable => closePeekable environment kind
  | .translating format =>
      Effect.tryFinally (act environment (.closeDecoder format)) (closePeekable environment kind)
  | .zstandard => closePeekable environment kind
  | .member => return ()

/-- The loop of `BatchStream.close` over what the stream owns, with the first exception so far. -/
def closeAll (kind : SourceKind) :
    List Reader → Option Raised → Effect AccessWorld Raised (Option Raised)
  | [], first => return first
  | reader :: readers, first => do
      let raised ← attempted (closeReader environment kind reader)
      closeAll kind readers (first.or raised)

/-- `BatchStream.close` -/
def closeBatchStream (opened : Opened) : Effect AccessWorld Raised Unit := do
  if (← readLocals).batchStreamClosed = true then return ()
  else
    setLocals fun flags => { flags with batchStreamClosed := true }
    let raised ← attemptedIf opened.hasBatches (act environment .closeBatches)
    let first ← closeAll environment opened.kind opened.closeables raised
    raiseFirst first

/-- `_close_source`: an exception is logged. -/
def closeQuietly (kind : SourceKind) (reader : Reader) : Effect AccessWorld Raised Unit := do
  let _ ← attempted (closeReader environment kind reader)

/-- `except BaseException: …; raise` -/
def closeAndRaise {α : Type} (close : Effect AccessWorld Raised Unit) (error : Raised) :
    Effect AccessWorld Raised α := do
  close
  Effect.raise error

/-! ### Looking at the first bytes -/

/-- The loop of `PeekableReader.peek(6)`: it reads until there are six bytes or no more. -/
def peekLoop : Nat → Bytes → Effect AccessWorld Raised Bytes
  | 0, buffer => return buffer
  | attempts + 1, buffer =>
      if 6 ≤ buffer.length then return buffer
      else do
        let chunk ← read environment (6 - buffer.length)
        if chunk = [] then return buffer else peekLoop attempts (buffer ++ chunk)

/-- `peek(6)`, with what the buffer holds: each chunk has a byte, so six reads are enough. -/
def peek (buffer : Bytes) : Effect AccessWorld Raised Bytes := peekLoop environment 6 buffer

/-- `_guard_undeclared_container`: the reader, and what its buffer holds. -/
def guardUndeclaredContainer (resource : Resource) :
    Effect AccessWorld Raised Bytes :=
  if text.strip (resource.format.getD "") ≠ "" then return []
  else do
    let buffer ← peek environment []
    match containerFormat (buffer.take 6) with
    | none => return buffer
    | some container =>
        Effect.raise (accessError ("Resource " ++ text.quoted resource.id ++
          " has no format but its bytes are a " ++ container ++ " container. Pass format= " ++
          "(for example " ++ (if container = "parquet" then "\"PARQUET\"" else "\"CSV\"") ++ ")"))

/-- `_zip_largest_member`: what is read is parsed and extracted, and the source is closed. -/
def zipLargestMember (kind : SourceKind) : Effect AccessWorld Raised Reader := do
  act environment .readBody
  act environment .extract
  closePeekable environment kind
  return .member

/-- `apply_compression` of a `PeekableReader` whose buffer holds some bytes. -/
def applyCompression (kind : SourceKind) (buffer : Bytes) (encoding : Option String) :
    Effect AccessWorld Raised Reader := do
  let buffer ← peek environment buffer
  match detectFormat (buffer.take 6) (text.folded (encoding.getD "")) with
  | .none => return .peekable
  | .zip => zipLargestMember environment kind
  | .zstd => do
      if (← hasZstandard environment) = true then
        act environment (.construct .zstd)
        return .zstandard
      else return .peekable
  | format => do
      act environment (.construct format)
      return .translating format

/-! ### Streams -/

/-- The constructor of `BatchStream`, for a stream that owns one reader. -/
def newBatchStream (kind : SourceKind) (hasBatches : Bool) (reader : Reader) :
    Effect AccessWorld Raised Opened := do
  setLocals fun flags => { flags with batchStreamClosed := false }
  return { kind, hasBatches, closeables := [reader] }

/-- `_build_batch_stream` -/
def buildBatchStream (kind : SourceKind) (reader : Reader) : Effect AccessWorld Raised Opened :=
  Effect.tryExcept
    (do
      act environment .getReader
      let first ← nextBatch environment
      newBatchStream kind first reader)
    (closeAndRaise (closeQuietly environment kind reader))

/-- The schema of a file without batches; an `Exception` stands for no schema. -/
def schemaOfEmpty : Effect AccessWorld Raised Unit :=
  Effect.tryExcept (act environment .readSchema) fun error =>
    if error.isException = true then return () else Effect.raise error

/-- `if first_pair is None: …` -/
def schemaUnless (first : Bool) : Effect AccessWorld Raised Unit :=
  if first = true then return () else schemaOfEmpty environment

/-- `_build_parquet_cursor_stream` -/
def buildParquetCursorStream (kind : SourceKind) : Effect AccessWorld Raised Opened := do
  let first ← Effect.tryExcept (do act environment .getReader; nextBatch environment)
    (closeAndRaise (closeQuietly environment kind .source))
  schemaUnless environment first
  newBatchStream kind first .source

/-- `_open_checkpointable_parquet` -/
def openCheckpointableParquet (resource : Resource) (kind : SourceKind) (encoding : Option String) :
    Effect AccessWorld Raised Opened :=
  if encoding.isSome = true then do
    closeSource environment kind
    Effect.raise (accessError ("Checkpointable Parquet resource " ++ text.quoted resource.id ++
      " must not be transport-compressed"))
  else do
    let magic ← read environment 6
    act environment .rewind
    if detectFormat magic "" ≠ .none then
      closeSource environment kind
      Effect.raise (accessError ("Checkpointable Parquet resource " ++ text.quoted resource.id ++
        " must not be compressed"))
    else buildParquetCursorStream environment kind

/-- The content encoding that `_open_http_parquet` goes by: one that the bytes belie is dropped. -/
def headerHint (magic : Bytes) (encoding : Option String) : Option String :=
  if encoding ≠ none ∧ encoding ≠ some "identity" ∧ detectFormat magic "" = .none then none
  else encoding

/-- `_open_http_parquet` -/
def openHttpParquet (kind : SourceKind) (encoding : Option String) :
    Effect AccessWorld Raised Opened := do
  let buffer ← peek environment []
  let hint := headerHint (buffer.take 6) encoding
  if detectFormat (buffer.take 6) (text.folded (hint.getD "")) = .none then
    buildBatchStream environment kind .peekable
  else
    let reader ← Effect.tryExcept (applyCompression environment text kind buffer hint)
      (closeAndRaise (closeQuietly environment kind .peekable))
    buildBatchStream environment kind reader

/-- `_open_compressed` -/
def openCompressed (resource : Resource) (kind : SourceKind) (encoding : Option String) :
    Effect AccessWorld Raised Opened := do
  let reader ← Effect.tryExcept
    (do
      let buffer ← guardUndeclaredContainer environment text resource
      applyCompression environment text kind buffer encoding)
    (closeAndRaise (closeSource environment kind))
  buildBatchStream environment kind reader

/-! ### Opening -/

/-- `_resolve_access` -/
def resolveAccess (resource : Resource) : Except Raised AccessKind :=
  match resource.access, resource.url with
  | some access, _ => .ok access
  | none, some _ => .ok .httpDownload
  | none, none =>
      .error (accessError ("Resource " ++ text.quoted resource.id ++
        " has no access descriptor and no url; cannot default to HttpDownload"))

/-- `_open_source` -/
def openSource (resource : Resource) (access : AccessKind) :
    Effect AccessWorld Raised (SourceKind × Option String) :=
  match access with
  | .httpDownload => do
      let (streamed, encoding) ← download environment
      return (if streamed = true then .response true false else .memory, encoding)
  | .objectStorage | .localFile => do
      act environment (.openFile access)
      return (.file, none)
  | .query endpoint =>
      Effect.raise (accessError ("Access kind 'query' is not implemented; query readers " ++
        "(CKAN datastore, Socrata SoQL) are not yet available for endpoint " ++
        text.quoted endpoint))
  | .stream =>
      Effect.raise (accessError ("Access kind 'stream' is out of scope — no target portal " ++
        "supports live streaming endpoints"))
  | .other kind =>
      Effect.raise (accessError ("Unknown access kind " ++ text.quoted kind ++ " on resource " ++
        text.quoted resource.id))

/-- The format of the resource is Parquet. -/
def isParquet (resource : Resource) : Bool := text.upper (resource.format.getD "") == "PARQUET"

/-- `_validate_batch_size` -/
def validateBatchSize (batchSize : Int) : Except Raised Unit :=
  if batchSize ≤ 0 then
    .error (accessError ("batch_size must be a positive integer, got " ++ toString batchSize))
  else .ok ()

/-- What `open` does with an acquired source. -/
def openAcquired (resource : Resource) (access : AccessKind) (kind : SourceKind)
    (encoding : Option String) : Effect AccessWorld Raised Opened :=
  if isParquet text resource = true ∧ (access = .localFile ∨ access = .objectStorage) then
    openCheckpointableParquet environment text resource kind encoding
  else if isParquet text resource = true ∧ access = .httpDownload then
    openHttpParquet environment text kind encoding
  else openCompressed environment text resource kind encoding

/-- `DataPlaneResourceReader.open` -/
def openResource (resource : Resource) (batchSize : Int) : Effect AccessWorld Raised Opened := do
  Effect.ofExcept (validateBatchSize batchSize)
  let access ← Effect.ofExcept (resolveAccess text resource)
  let (kind, encoding) ← openSource environment text resource access
  openAcquired environment text resource access kind encoding

/-- `open_response`, for a context and the content encoding among its headers. -/
def openResponse (resource : Resource) (hasClose : Bool) (encoding : Option String)
    (batchSize : Int) : Effect AccessWorld Raised Opened := do
  Effect.ofExcept (validateBatchSize batchSize)
  act environment (.enterContext hasClose)
  Effect.tryExcept (act environment .iterate) (closeAndRaise (act environment .exitContext))
  let kind := SourceKind.response hasClose true
  Effect.tryExcept
    (do
      let buffer ← guardUndeclaredContainer environment text resource
      let reader ← applyCompression environment text kind buffer encoding
      buildBatchStream environment kind reader)
    (closeAndRaise (closeSource environment kind))

/-- `open_from_cursor` at a Parquet position. -/
def openFromCursor (resource : Resource) (rowGroup : Nat) (batchSize : Int) :
    Effect AccessWorld Raised Opened := do
  Effect.ofExcept (validateBatchSize batchSize)
  if isParquet text resource = false then
    Effect.raise (accessError ("Continuation for resource " ++ text.quoted resource.id ++
      " supports only PARQUET resources"))
  else
    let access ← Effect.ofExcept (resolveAccess text resource)
    if access = .localFile ∨ access = .objectStorage then
      act environment (.openFile access)
      buildParquetCursorStream environment .file
    else
      Effect.raise (accessError ("Continuation for resource " ++ text.quoted resource.id ++
        " at row group " ++ toString rowGroup ++ " requires local_file or object_storage " ++
        "access; " ++ text.quoted access.name ++
        " cannot resume without restarting at byte zero"))

/-- The ways to open a resource. -/
inductive Opening
  | stored
  | fetched (hasClose : Bool) (encoding : Option String)
  | cursor (rowGroup : Nat)

/-- What a way to open a resource does. -/
def Opening.run (resource : Resource) (batchSize : Int) :
    Opening → Effect AccessWorld Raised Opened
  | .stored => openResource environment text resource batchSize
  | .fetched hasClose encoding => openResponse environment text resource hasClose encoding batchSize
  | .cursor rowGroup => openFromCursor environment text resource rowGroup batchSize

end Operations

/-! ## Whether the source is closed -/

/-- The call that gives a source back. -/
def releases : SourceKind → Option Action
  | .file => some .closeFile
  | .memory => none
  | .response _ true => some .exitContext
  | .response true false => some .closeResponse
  | .response false false => none

/-- The call was made. -/
def Called (history : List (Happening Answer)) (action : Action) : Prop :=
  AccessOp.act action ∈ history.map Sigma.fst

/-- The source was given back. -/
def Released (kind : SourceKind) (history : List (Happening Answer)) : Prop :=
  ∀ action ∈ releases kind, Called history action

/-- An exception that no one closes the source for: one of the first reads of a Parquet file, or
one that is not an `Exception` where only those are handled. -/
def Unhandled (kind : SourceKind) : Happening Answer → Prop
  | ⟨.read _, .error _⟩ => True
  | ⟨.act .rewind, .error _⟩ => True
  | ⟨.act .readSchema, .error error⟩ => error.isException = false
  | ⟨.act .closeBatches, .error error⟩ => error.isException = false
  | ⟨.act .closeResponse, .error error⟩ =>
      error.isException = false ∧ ∃ hasClose, kind = .response hasClose true
  | _ => False

/-- The last call ended in such an exception, with a source that has to be given back. -/
def Leaking (kind : SourceKind) (history : List (Happening Answer)) : Prop :=
  releases kind ≠ none ∧ ∃ event, history.getLast? = some event ∧ Unhandled kind event

/-- The source was not closed yet. -/
structure Unclosed (world : AccessWorld) : Prop where
  uncalled : ∀ action ∈ [Action.closeFile, .closeResponse, .exitContext],
    ¬ Called world.history action
  streamOpen : world.locals.streamClosed = false

/-- Neither the source nor a `PeekableReader` was closed yet. -/
structure Held (world : AccessWorld) : Prop extends Unclosed world where
  peekableOpen : world.locals.peekableClosed = false

/-- The source was given back, unless the last call says why not. -/
def Accounted (kind : SourceKind) (history : List (Happening Answer)) : Prop :=
  ¬ Released kind history ↔ Leaking kind history

/-- The source is accounted for, and closing it again does nothing. -/
structure Over (kind : SourceKind) (world : AccessWorld) : Prop where
  accounted : Accounted kind world.history
  streamClosed : ∀ hasClose context, kind = .response hasClose context →
    world.locals.streamClosed = true

/-- The source was given back, and the last call is none that leaks. -/
structure Freed (kind : SourceKind) (world : AccessWorld) : Prop extends Over kind world where
  released : Released kind world.history

section Rules

variable {kind : SourceKind} {environment : Environment Answer} {history : List (Happening Answer)}

/-- A longer history shows a call when the shorter one did, or when its last event is that call. -/
theorem called_append {action : Action} {event : Happening Answer} :
    Called (history ++ [event]) action ↔ Called history action ∨ event.1 = .act action := by
  calc AccessOp.act action ∈ (history ++ [event]).map (·.1)
    _ ↔ AccessOp.act action ∈ history.map (·.1) ++ [event.1] := by
      rw [List.map_append, List.map_singleton]
    _ ↔ Called history action ∨ AccessOp.act action = event.1 := by
      rw [List.mem_append, List.mem_singleton, Called]
    _ ↔ Called history action ∨ event.1 = .act action := or_congr_right eq_comm

/-- A source is released by closing the file, by closing the response or by leaving its context,
and by nothing else. -/
theorem releases_mem {action : Action} (hrelease : action ∈ releases kind) :
    action ∈ [Action.closeFile, .closeResponse, .exitContext] := by
  rcases kind with _ | _ | ⟨_ | _, _ | _⟩ <;> cases hrelease <;> simp

/-- A source that is held was not given back, if it has to be. -/
theorem Unclosed.not_released {world : AccessWorld} (hheld : Unclosed world)
    (hreleases : releases kind ≠ none) : ¬ Released kind world.history := by
  obtain ⟨action, haction⟩ := Option.ne_none_iff_exists'.mp hreleases
  exact fun hreleased => hheld.uncalled action (releases_mem haction)
    (hreleased action haction)

/-- A source in memory, or a response with neither a context nor a `close`, has nothing to be
released by, so it is released from the start. -/
theorem released_of_none (hnone : releases kind = none) : Released kind history := by
  intro action haction
  rw [hnone] at haction
  cases haction

/-- A source that is held when the last call leaks. -/
theorem Unclosed.accounted {world : AccessWorld} (hheld : Unclosed world)
    {event : Happening Answer} (hlast : world.history.getLast? = some event)
    (hunhandled : Unhandled kind event) : Accounted kind world.history := by
  by_cases hnone : releases kind = none
  · exact iff_of_false (fun hheld => hheld (released_of_none hnone)) fun hleaking =>
      hleaking.1 hnone
  · exact iff_of_true (hheld.not_released hnone) ⟨hnone, event, hlast, hunhandled⟩

/-- A source that was given back when the last call does not leak. -/
theorem accounted_of_released {event : Happening Answer}
    (hreleased : Released kind (history ++ [event])) (hhandled : ¬ Unhandled kind event) :
    Accounted kind (history ++ [event]) := by
  apply iff_of_false (fun hheld => hheld hreleased)
  rintro ⟨-, last, hlast, hunhandled⟩
  cases List.getLast?_concat.symm.trans hlast
  exact hhandled hunhandled

/-- The call that gives the source back. -/
theorem released_of_releases {action : Action} (hreleases : releases kind = some action)
    {answer : Except Raised Unit} : Released kind (history ++ [⟨.act action, answer⟩]) := by
  intro other hother
  cases hreleases.symm.trans hother
  exact called_append.mpr (.inr rfl)

/-- For the same reason it is accounted for in every history. -/
theorem accounted_of_none (hnone : releases kind = none) : Accounted kind history :=
  iff_of_false (fun hheld => hheld (released_of_none hnone)) fun hleaking => hleaking.1 hnone

/-- A call that does not close a source. -/
def ClosesNothing (op : AccessOp) : Prop :=
  ∀ action ∈ [Action.closeFile, .closeResponse, .exitContext], op ≠ .act action

/-- What closes nothing leaves an open source open. -/
theorem Held.append {world : AccessWorld} (hheld : Held world) {event : Happening Answer}
    (hkeeps : ClosesNothing event.1) : Held { world with history := world.history ++ [event] } where
  uncalled := fun action haction hcalled => by
    rcases called_append.mp hcalled with hearlier | hnow
    · exact hheld.uncalled action haction hearlier
    · exact hkeeps action haction hnow
  streamOpen := hheld.streamOpen
  peekableOpen := hheld.peekableOpen

/-- A call that closes nothing leaves a source that is held as it is. -/
theorem ends_ask_held {op : AccessOp} (hkeeps : ClosesNothing op) :
    Effect.Ends Held (ask environment op : Effect AccessWorld Raised op.Reply)
      (fun _ => Held)
      (fun error world => Held world ∧
        world.history.getLast? = some ⟨op, .error error⟩) :=
  Ends.ask (fun _ _ hheld => hheld.append hkeeps) fun _ _ hheld =>
    ⟨hheld.append hkeeps, List.getLast?_concat⟩

/-- An action other than the three that release a source closes nothing. -/
theorem closesNothing_act {action : Action}
    (hother : action ∉ [Action.closeFile, .closeResponse, .exitContext]) :
    ClosesNothing (.act action) := by
  rintro closer hcloser hsame
  cases hsame
  exact hother hcloser

/-- An action that closes nothing leaves the source open, also when it fails; its failure is then
the last event. -/
theorem ends_act {action : Action}
    (hother : action ∉ [Action.closeFile, .closeResponse, .exitContext]) :
    Effect.Ends Held (act environment action) (fun _ => Held)
      (fun error world => Held world ∧
        world.history.getLast? = some ⟨.act action, .error error⟩) :=
  ends_ask_held (closesNothing_act hother)

end Rules

/-! ### Closing -/

section Closing

variable {kind : SourceKind} {environment : Environment Answer}

/-- A source that was freed stays freed, unless the last event is one of the exceptions that
leak. -/
theorem Freed.append {world : AccessWorld} (hfreed : Freed kind world) {event : Happening Answer}
    (hhandled : ¬ Unhandled kind event) :
    Freed kind { world with history := world.history ++ [event] } := by
  have hreleased : Released kind (world.history ++ [event]) :=
    fun action haction => called_append.mpr (.inl (hfreed.released action haction))
  exact ⟨⟨accounted_of_released hreleased hhandled, hfreed.streamClosed⟩, hreleased⟩

/-- The rule for a `try` statement that keeps an `Exception` for later: what holds behind the error
holds with the error in hand, and an exception that ends the task goes on. -/
theorem ends_attempted {P : AccessWorld → Prop} {R : AccessWorld → Prop}
    {F : Raised → AccessWorld → Prop} {Q : Option Raised → AccessWorld → Prop}
    {E : Raised → AccessWorld → Prop} {program : Effect AccessWorld Raised Unit}
    (hprogram : Effect.Ends P program (fun _ => R) F)
    (hnone : ∀ world, R world → Q none world)
    (hcaught : ∀ error world, error.isException = true → F error world → Q (some error) world)
    (hraised : ∀ error world, error.isException = false → F error world → E error world) :
    Effect.Ends P (attempted program) Q E := by
  apply Effect.Ends.tryExcept (F := F)
  · exact hprogram.bind fun _ => .pure hnone
  · intro error
    apply Effect.Ends.ite
    · exact fun hexception => .pure fun world => hcaught error world hexception
    · exact fun hfatal => .raise fun world => hraised error world (by simpa using hfatal)

/-- A response with a context is released by leaving the context, whether it can be closed or not.
-/
theorem releases_context (hasClose : Bool) :
    releases (.response hasClose true) = some .exitContext := by
  cases hasClose <;> rfl

/-- Leaving the context frees such a response, whatever the context answers, since the flag of the
stream was set before. -/
theorem freed_of_exit {hasClose : Bool} {world : AccessWorld} {answer : Except Raised Unit}
    (hflag : world.locals.streamClosed = true) :
    Freed (.response hasClose true)
      { world with history := world.history ++ [⟨.act .exitContext, answer⟩] } := by
  have hreleased : Released (.response hasClose true)
      (world.history ++ [⟨.act .exitContext, answer⟩]) :=
    released_of_releases (releases_context hasClose)
  exact ⟨⟨accounted_of_released hreleased id, fun _ _ _ => hflag⟩, hreleased⟩

/-- The first half of `_StreamClosingBytesIO.close`. -/
theorem ends_closeResponse (hasClose context : Bool) :
    Effect.Ends Unclosed
      (do
        setLocals fun flags => { flags with streamClosed := true }
        attemptedIf hasClose (act environment .closeResponse))
      (fun _ world => world.locals.streamClosed = true ∧
        (context = false → Freed (.response hasClose context) world))
      (fun _ => Over (.response hasClose context)) := by
  apply Effect.Ends.bind (R := fun _ world => world.locals.streamClosed = true ∧
    Unclosed { world with locals := {} })
  · apply Ends.setLocals
    exact fun world hheld => ⟨rfl, hheld.uncalled, rfl⟩
  intro _
  apply Effect.Ends.ite
  · rintro rfl
    have hclosed : ∀ (world : AccessWorld) (answer : Except Raised Unit),
        world.locals.streamClosed = true →
        Unclosed { world with locals := {} } → context = false →
        Freed (.response true context)
          { world with history := world.history ++ [⟨.act .closeResponse, answer⟩] } := by
      rintro world answer hflag hheld rfl
      have hreleased : Released (.response true false)
          (world.history ++ [⟨.act .closeResponse, answer⟩]) := released_of_releases rfl
      refine ⟨⟨accounted_of_released hreleased ?_, fun _ _ _ => hflag⟩, hreleased⟩
      intro hunhandled
      cases answer with
      | ok done => exact hunhandled
      | error error =>
          obtain ⟨-, other, hkind⟩ := hunhandled
          cases hkind
    apply ends_attempted (R := fun world => world.locals.streamClosed = true ∧
        (context = false → Freed (.response true context) world))
      (F := fun error world => world.locals.streamClosed = true ∧
        (context = false → Freed (.response true context) world) ∧
        (error.isException = false → Over (.response true context) world))
    · apply Ends.ask
      · rintro world done ⟨hflag, hheld⟩
        exact ⟨hflag, hclosed world (.ok done) hflag hheld⟩
      · rintro world error ⟨hflag, hheld⟩
        refine ⟨hflag, hclosed world (.error error) hflag hheld, fun hfatal => ?_⟩
        cases context with
        | false => exact (hclosed world (.error error) hflag hheld rfl).toOver
        | true =>
            refine ⟨iff_of_true ?_ ?_, fun _ _ _ => hflag⟩
            · intro hreleased
              rcases called_append.mp (hreleased .exitContext rfl) with hearlier | hnow
              · exact hheld.uncalled .exitContext (by decide) hearlier
              · cases hnow
            · exact ⟨by decide, _, List.getLast?_concat, hfatal, true, rfl⟩
    · exact fun world hworld => hworld
    · exact fun error world _ hworld => ⟨hworld.1, hworld.2.1⟩
    · exact fun error world hfatal hworld => hworld.2.2 hfatal
  · intro hnone
    obtain rfl : hasClose = false := by simpa using hnone
    apply Effect.Ends.pure
    rintro world ⟨hflag, hheld⟩
    refine ⟨hflag, ?_⟩
    rintro rfl
    exact ⟨⟨accounted_of_none rfl, fun _ _ _ => hflag⟩, released_of_none rfl⟩

/-- The second half: the context is left, and the first exception is raised. -/
theorem ends_exitContext (hasClose context : Bool) (first : Option Raised) :
    Effect.Ends (fun world => world.locals.streamClosed = true ∧
        (context = false → Freed (.response hasClose context) world))
      (do
        let second ← attemptedIf context (act environment .exitContext)
        raiseFirst (first.or second))
      (fun _ => Freed (.response hasClose context))
      (fun _ => Over (.response hasClose context)) := by
  apply Effect.Ends.bind (R := fun _ => Freed (.response hasClose context))
  · apply Effect.Ends.ite
    · rintro rfl
      have hexit : Effect.Ends (fun world : AccessWorld => world.locals.streamClosed = true)
          (act environment .exitContext) (fun _ => Freed (.response hasClose true))
          (fun _ => Freed (.response hasClose true)) :=
        Ends.ask (fun _ _ hflag => freed_of_exit hflag) fun _ _ hflag => freed_of_exit hflag
      have hattempted : Effect.Ends (fun world : AccessWorld => world.locals.streamClosed = true)
          (attempted (act environment .exitContext)) (fun _ => Freed (.response hasClose true))
          (fun _ => Over (.response hasClose true)) :=
        ends_attempted hexit (fun _ hfreed => hfreed) (fun _ _ _ hfreed => hfreed)
          fun _ _ _ hfreed => hfreed.toOver
      exact hattempted.weaken (fun _ hworld => hworld.1) (fun _ _ hfreed => hfreed)
        fun _ _ hover => hover
    · intro hnone
      exact .pure fun world hworld => hworld.2 (by simpa using hnone)
  · intro second
    cases first.or second with
    | some error => exact .raise fun world hfreed => hfreed.toOver
    | none => exact .pure fun world hfreed => hfreed

/-- A file is freed by the call of its `close`, also when that call raises: nothing more can be
done about it. -/
theorem freed_of_closeFile {world : AccessWorld} {answer : Except Raised Unit} :
    Freed .file { world with history := world.history ++ [⟨.act .closeFile, answer⟩] } := by
  have hreleased : Released .file (world.history ++ [⟨.act .closeFile, answer⟩]) :=
    released_of_releases rfl
  exact ⟨⟨accounted_of_released hreleased id, nofun⟩, hreleased⟩

/-- A source that is held is given back when it is closed, or the last call says why not. -/
theorem ends_closeSource :
    Effect.Ends Unclosed (closeSource environment kind) (fun _ => Freed kind)
      (fun _ => Over kind) := by
  cases kind with
  | file =>
      exact Ends.ask (fun _ _ _ => freed_of_closeFile) fun _ _ _ => freed_of_closeFile.toOver
  | memory =>
      apply Effect.Ends.pure
      exact fun world _ => ⟨⟨accounted_of_none rfl, nofun⟩, released_of_none rfl⟩
  | response hasClose context =>
      apply Effect.Ends.bind (R := fun flags world => flags = world.locals ∧
        Unclosed world)
      · exact Ends.readLocals
      intro flags
      apply Effect.Ends.ite
      · rintro hclosed world ⟨rfl, hheld⟩
        rw [hheld.streamOpen] at hclosed
        cases hclosed
      · intro _
        have hstream : closeStream environment hasClose context =
            ((do
              setLocals fun flags => { flags with streamClosed := true }
              attemptedIf hasClose (act environment .closeResponse)) >>= fun first => do
                let second ← attemptedIf context (act environment .exitContext)
                raiseFirst (first.or second)) := by
          rw [bind_assoc]
          rfl
        rw [hstream]
        apply Effect.Ends.bind
        · exact (ends_closeResponse hasClose context).weaken (fun _ hworld => hworld.2)
            (fun _ _ hworld => hworld) fun _ _ hover => hover
        · exact fun first => ends_exitContext hasClose context first

/-- A source that is dealt with stays so when it is closed again. -/
theorem ends_closeSource_over :
    Effect.Ends (Over kind) (closeSource environment kind) (fun _ => Over kind)
      (fun _ => Over kind) := by
  cases kind with
  | file =>
      exact Ends.ask (fun _ _ _ => freed_of_closeFile.toOver) fun _ _ _ => freed_of_closeFile.toOver
  | memory => exact .pure fun world hover => hover
  | response hasClose context =>
      apply Effect.Ends.bind (R := fun flags world => flags = world.locals ∧
        Over (.response hasClose context) world)
      · exact Ends.readLocals
      intro flags
      apply Effect.Ends.ite
      · exact fun _ => .pure fun world hworld => hworld.2
      · rintro hopen world ⟨rfl, hover⟩
        exact absurd (hover.streamClosed hasClose context rfl) hopen

/-- Closing the reader that peeks frees the source. When it raises, the source is accounted for all
the same. -/
theorem ends_closePeekable :
    Effect.Ends Held (closePeekable environment kind) (fun _ => Freed kind)
      (fun _ => Over kind) := by
  apply Effect.Ends.bind (R := fun flags world => flags = world.locals ∧ Held world)
  · exact Ends.readLocals
  intro flags
  apply Effect.Ends.ite
  · rintro hclosed world ⟨rfl, hheld⟩
    rw [hheld.peekableOpen] at hclosed
    cases hclosed
  · intro _
    apply Effect.Ends.bind (R := fun _ => Unclosed)
    · exact Ends.setLocals fun world hworld => ⟨hworld.2.uncalled, hworld.2.streamOpen⟩
    · exact fun _ => ends_closeSource

/-- Closing it once more, after the source is settled, changes nothing about that. -/
theorem ends_closePeekable_over :
    Effect.Ends (Over kind) (closePeekable environment kind) (fun _ => Over kind)
      (fun _ => Over kind) := by
  apply Effect.Ends.bind (R := fun _ => Over kind)
  · exact Ends.readLocals.weaken (fun _ hover => hover) (fun _ _ hworld => hworld.2)
      fun _ _ hover => hover
  intro flags
  apply Effect.Ends.ite
  · exact fun _ => .pure fun _ hover => hover
  · intro _
    apply Effect.Ends.bind (R := fun _ => Over kind)
    · exact Ends.setLocals fun world hover => ⟨hover.accounted, hover.streamClosed⟩
    · exact fun _ => ends_closeSource_over

/-- What a resource is read from is still there, or is a member whose archive was given back. -/
def Ready (kind : SourceKind) (reader : Reader) (world : AccessWorld) : Prop :=
  reader = .member ∧ Freed kind world ∨ reader ≠ .member ∧ Held world

/-- Closing what a resource is read from gives the source back. -/
theorem ends_closeReader (reader : Reader) :
    Effect.Ends (Ready kind reader) (closeReader environment kind reader) (fun _ => Freed kind)
      (fun _ => Over kind) := by
  cases reader with
  | source =>
      apply ends_closeSource.weaken
      · rintro world (⟨hmember, -⟩ | ⟨-, hheld⟩)
        · cases hmember
        · exact hheld.toUnclosed
      · exact fun _ _ hfreed => hfreed
      · exact fun _ _ hover => hover
  | peekable | zstandard =>
      apply ends_closePeekable.weaken
      · rintro world (⟨hmember, -⟩ | ⟨-, hheld⟩)
        · cases hmember
        · exact hheld
      · exact fun _ _ hfreed => hfreed
      · exact fun _ _ hover => hover
  | translating format =>
      apply Effect.Ends.tryFinally (R := fun _ => Held) (F := fun _ => Held)
      · apply (ends_act (by simp)).weaken
        · rintro world (⟨hmember, -⟩ | ⟨-, hheld⟩)
          · cases hmember
          · exact hheld
        · exact fun _ _ hheld => hheld
        · exact fun _ _ hheld => hheld.1
      · exact fun _ => ends_closePeekable
      · exact fun error => ends_closePeekable.weaken (fun _ hheld => hheld)
          (fun _ _ hfreed => hfreed.toOver) fun _ _ hover => hover
  | member =>
      apply Effect.Ends.pure
      rintro world (⟨-, hfreed⟩ | ⟨hother, -⟩)
      · exact hfreed
      · exact absurd rfl hother

/-- Closing any reader on the way out settles the source, and whatever is raised on the way settles
it too. -/
theorem ends_closeQuietly (reader : Reader) :
    Effect.Ends (Ready kind reader) (closeQuietly environment kind reader) (fun _ => Over kind)
      (fun _ => Over kind) := by
  apply Effect.Ends.bind (R := fun _ => Over kind)
  · exact ends_attempted (ends_closeReader reader) (fun _ hfreed => hfreed.toOver)
      (fun _ _ _ hover => hover) fun _ _ _ hover => hover
  · exact fun _ => .pure fun _ hover => hover

/-- The same where the source may be closed already. -/
theorem ends_closeQuietly_peekable :
    Effect.Ends (fun world => Held world ∨ Over kind world)
      (closeQuietly environment kind .peekable) (fun _ => Over kind) (fun _ => Over kind) := by
  apply Effect.Ends.or
  · exact (ends_closeQuietly .peekable).weaken (fun _ hheld => .inr ⟨nofun, hheld⟩)
      (fun _ _ hover => hover) fun _ _ hover => hover
  · apply Effect.Ends.bind (R := fun _ => Over kind)
    · exact ends_attempted ends_closePeekable_over (fun _ hover => hover)
        (fun _ _ _ hover => hover) fun _ _ _ hover => hover
    · exact fun _ => .pure fun _ hover => hover

/-- The end of an `except` clause that closes the source. -/
theorem ends_closeAndRaise {P : AccessWorld → Prop} {α : Type}
    {close : Effect AccessWorld Raised Unit} {Q : α → AccessWorld → Prop}
    (hclose : Effect.Ends P close (fun _ => Over kind) (fun _ => Over kind)) (error : Raised) :
    Effect.Ends P (closeAndRaise close error) Q (fun _ => Over kind) :=
  hclose.bind fun _ => .raise fun _ hover => hover

end Closing

/-! ### Opening -/

section Opening

variable {kind : SourceKind} {environment : Environment Answer} {text : TextOps}

/-- A call that neither closes nor leaks. -/
theorem ends_ask_ready {op : AccessOp} {reader : Reader} (hcloses : ClosesNothing op)
    (hhandled : ∀ answer, ¬ Unhandled kind ⟨op, answer⟩) :
    Effect.Ends (Ready kind reader) (ask environment op : Effect AccessWorld Raised op.Reply)
      (fun _ => Ready kind reader) (fun _ => Ready kind reader) := by
  have hready : ∀ (world : AccessWorld) (answer : Answer op), Ready kind reader world →
      Ready kind reader { world with history := world.history ++ [⟨op, answer⟩] } := by
    rintro world answer (⟨hmember, hfreed⟩ | ⟨hother, hheld⟩)
    · exact .inl ⟨hmember, hfreed.append (hhandled answer)⟩
    · exact .inr ⟨hother, hheld.append hcloses⟩
  exact Ends.ask (fun world _ hworld => hready world _ hworld) fun world _ hworld =>
    hready world _ hworld

/-- A read closes nothing, and when it fails its failure is the last event. -/
theorem ends_read (size : Nat) :
    Effect.Ends Held (read environment size) (fun _ => Held)
      (fun error world => Held world ∧
        world.history.getLast? = some ⟨.read size, .error error⟩) :=
  ends_ask_held nofun

/-- Looking for the decompressor of Zstandard closes nothing. -/
theorem ends_hasZstandard :
    Effect.Ends Held (hasZstandard environment) (fun _ => Held) (fun _ => Held) := by
  have hask : Effect.Ends Held (hasZstandard environment) (fun _ => Held)
      (fun error world => Held world ∧
        world.history.getLast? = some ⟨.hasZstandard, .error error⟩) := ends_ask_held nofun
  exact hask.weaken (fun _ hheld => hheld) (fun _ _ hheld => hheld) fun _ _ hworld => hworld.1

/-- Asking the parser for a batch leaves the reader ready. -/
theorem ends_nextBatch {reader : Reader} :
    Effect.Ends (Ready kind reader) (nextBatch environment) (fun _ => Ready kind reader)
      (fun _ => Ready kind reader) :=
  ends_ask_ready nofun fun _ => id

/-- The loop that peeks at the first bytes closes nothing. When it fails, a read was the last
event, which is how the caller knows that the source is still open. -/
theorem ends_peekLoop (attempts : Nat) (buffer : Bytes) :
    Effect.Ends Held (peekLoop environment attempts buffer) (fun _ => Held)
      (fun error world => Held world ∧
        ∃ size, world.history.getLast? = some ⟨.read size, .error error⟩) := by
  induction attempts generalizing buffer with
  | zero => exact .pure fun _ hheld => hheld
  | succ attempts ih =>
      apply Effect.Ends.ite
      · exact fun _ => .pure fun _ hheld => hheld
      · intro _
        apply Effect.Ends.bind (R := fun _ => Held)
        · exact (ends_read (6 - buffer.length)).weaken (fun _ hheld => hheld)
            (fun _ _ hheld => hheld) fun _ _ hworld => ⟨hworld.1, _, hworld.2⟩
        · intro chunk
          apply Effect.Ends.ite
          · exact fun _ => .pure fun _ hheld => hheld
          · exact fun _ => ih _

/-- The guard against a container that nobody declared only looks at what was peeked. -/
theorem ends_guard (resource : Resource) :
    Effect.Ends Held (guardUndeclaredContainer environment text resource) (fun _ => Held)
      (fun _ => Held) := by
  apply Effect.Ends.ite
  · exact fun _ => .pure fun _ hheld => hheld
  · intro _
    apply Effect.Ends.bind (R := fun _ => Held)
    · exact (ends_peekLoop 6 []).weaken (fun _ hheld => hheld) (fun _ _ hheld => hheld)
        fun _ _ hworld => hworld.1
    · intro buffer
      cases containerFormat (buffer.take 6) with
      | none => exact .pure fun _ hheld => hheld
      | some container => exact .raise fun _ hheld => hheld

/-- Choosing the decompressor ends with a reader that is ready, or with an error behind which the
source is either open still or settled. -/
theorem ends_applyCompression (buffer : Bytes) (encoding : Option String) :
    Effect.Ends Held (applyCompression environment text kind buffer encoding)
      (fun reader => Ready kind reader) (fun _ world => Held world ∨ Over kind world) := by
  have hact : ∀ {action : Action},
      action ∉ [Action.closeFile, .closeResponse, .exitContext] →
      Effect.Ends Held (act environment action) (fun _ => Held)
        (fun _ world => Held world ∨ Over kind world) := fun hother =>
    (ends_act hother).weaken (fun _ hheld => hheld) (fun _ _ hheld => hheld)
      fun _ _ hworld => .inl hworld.1
  apply Effect.Ends.bind (R := fun _ => Held)
  · exact (ends_peekLoop 6 buffer).weaken (fun _ hheld => hheld) (fun _ _ hheld => hheld)
      fun _ _ hworld => .inl hworld.1
  intro buffer
  cases detectFormat (buffer.take 6) (text.folded (encoding.getD "")) with
  | none => exact .pure fun _ hheld => .inr ⟨nofun, hheld⟩
  | zip =>
      apply (hact (by decide)).bind
      intro _
      apply (hact (by decide)).bind
      intro _
      apply Effect.Ends.bind (R := fun _ => Freed kind)
      · exact ends_closePeekable.weaken (fun _ hheld => hheld) (fun _ _ hfreed => hfreed)
          fun _ _ hover => .inr hover
      · exact fun _ => .pure fun _ hfreed => .inl ⟨rfl, hfreed⟩
  | zstd =>
      apply Effect.Ends.bind (R := fun _ => Held)
      · exact ends_hasZstandard.weaken (fun _ hheld => hheld) (fun _ _ hheld => hheld)
          fun _ _ hheld => .inl hheld
      intro available
      apply Effect.Ends.ite
      · intro _
        apply (hact (by decide)).bind
        exact fun _ => .pure fun _ hheld => .inr ⟨nofun, hheld⟩
      · exact fun _ => .pure fun _ hheld => .inr ⟨nofun, hheld⟩
  | gzip | bzip2 =>
      apply (hact (by decide)).bind
      exact fun _ => .pure fun _ hheld => .inr ⟨nofun, hheld⟩

/-- A stream that can be read from and was not closed yet: it is over the given source, and owns
the one reader through which that source is given back. -/
structure Owns (kind : SourceKind) (opened : Opened) (world : AccessWorld) : Prop where
  kind_eq : opened.kind = kind
  unclosed : world.locals.batchStreamClosed = false
  ready : ∃ reader, opened.closeables = [reader] ∧ Ready kind reader world

/-- The constructor of a stream takes the reader over. -/
theorem ends_newBatchStream (hasBatches : Bool) (reader : Reader)
    {E : Raised → AccessWorld → Prop} :
    Effect.Ends (Ready kind reader) (newBatchStream kind hasBatches reader) (Owns kind) E := by
  apply Effect.Ends.bind (R := fun _ world => world.locals.batchStreamClosed = false ∧
    Ready kind reader world)
  · apply Ends.setLocals
    rintro world (⟨hmember, hfreed⟩ | ⟨hother, hheld⟩)
    · exact ⟨rfl, .inl ⟨hmember, ⟨hfreed.accounted, hfreed.streamClosed⟩, hfreed.released⟩⟩
    · exact ⟨rfl, .inr ⟨hother, ⟨hheld.uncalled, hheld.streamOpen⟩, hheld.peekableOpen⟩⟩
  · exact fun _ => .pure fun _ hworld => ⟨rfl, hworld.1, reader, rfl, hworld.2⟩

/-- Building the stream of batches hands the source over to the stream, which owns it from there
on. An error on the way settles the source. -/
theorem ends_buildBatchStream (reader : Reader) :
    Effect.Ends (Ready kind reader) (buildBatchStream environment kind reader) (Owns kind)
      (fun _ => Over kind) := by
  apply Effect.Ends.tryExcept (F := fun _ => Ready kind reader)
  · apply Effect.Ends.bind (R := fun _ => Ready kind reader)
    · exact ends_ask_ready (closesNothing_act (by decide)) fun _ => id
    intro _
    apply ends_nextBatch.bind
    exact fun first => ends_newBatchStream first reader
  · exact fun error => ends_closeAndRaise (ends_closeQuietly reader) error

/-- A stream that is returned reads from an open source; otherwise the source is accounted for. -/
abbrev Opens (kind : SourceKind) (P : AccessWorld → Prop)
    (program : Effect AccessWorld Raised Opened) : Prop :=
  Effect.Ends P program (Owns kind) (fun _ world => Accounted kind world.history)

/-- An open source is ready to be read through any reader but a member of an archive, which is read
from after the archive was given back. -/
theorem Held.ready {world : AccessWorld} {reader : Reader} (hheld : Held world)
    (hreader : reader ≠ .member) : Ready kind reader world := .inr ⟨hreader, hheld⟩

/-- The stream of batches is either the owner of the source or leaves it accounted for. -/
theorem opens_buildBatchStream (reader : Reader) :
    Opens kind (Ready kind reader) (buildBatchStream environment kind reader) :=
  (ends_buildBatchStream reader).weaken (fun _ hready => hready) (fun _ _ hopened => hopened)
    fun _ _ hover => hover.accounted

/-- An `except` clause that closes the source accounts for it. -/
theorem opens_closeAndRaise {P : AccessWorld → Prop} {close : Effect AccessWorld Raised Unit}
    (hclose : Effect.Ends P close (fun _ => Over kind) (fun _ => Over kind)) (error : Raised) :
    Opens kind P (closeAndRaise close error) :=
  (ends_closeAndRaise hclose error).weaken (fun _ hworld => hworld) (fun _ _ hopened => hopened)
    fun _ _ hover => hover.accounted

/-- The schema is read when there is no first batch. Only an exception that ends the task leaves
this step, with the source open, and it is the last call. -/
theorem opens_schemaUnless (first : Bool) :
    Effect.Ends Held (schemaUnless environment first) (fun _ => Held)
      (fun _ world => Accounted kind world.history) := by
  apply Effect.Ends.ite
  · exact fun _ => .pure fun _ hheld => hheld
  · intro _
    apply Effect.Ends.tryExcept (ends_act (by decide))
    intro error
    apply Effect.Ends.ite
    · exact fun _ => .pure fun _ hworld => hworld.1
    · intro hfatal
      apply Effect.Ends.raise
      rintro world ⟨hheld, hlast⟩
      exact hheld.accounted hlast (Bool.eq_false_iff.mpr hfatal)

/-- The stream with cursors owns the source that it was built over, or its failure accounts for it.
-/
theorem opens_buildParquetCursorStream :
    Opens kind Held (buildParquetCursorStream environment kind) := by
  apply Effect.Ends.bind (R := fun _ => Held)
  · apply Effect.Ends.tryExcept (F := fun _ => Ready kind .source)
    · apply Effect.Ends.bind (R := fun _ => Ready kind .source)
      · exact (ends_act (by decide)).weaken (fun _ hheld => hheld)
          (fun _ _ hheld => hheld.ready nofun) fun _ _ hworld => hworld.1.ready nofun
      · intro _
        apply ends_nextBatch.weaken
        · exact fun _ hready => hready
        · rintro _ world (⟨hmember, -⟩ | ⟨-, hheld⟩)
          · cases hmember
          · exact hheld
        · exact fun _ _ hready => hready
    · intro error
      exact (ends_closeAndRaise (ends_closeQuietly .source) error).weaken
        (fun _ hready => hready) (fun _ _ hheld => hheld) fun _ _ hover => hover.accounted
  intro first
  apply Effect.Ends.bind (R := fun _ => Held)
  · exact opens_schemaUnless first
  · exact fun _ => (ends_newBatchStream first .source).weaken
      (fun _ hheld => hheld.ready nofun) (fun _ _ howns => howns) fun _ _ haccounted => haccounted

/-- Closing a source that is held, and raising. -/
theorem opens_closeSource (error : Raised) :
    Opens kind Held (closeAndRaise (closeSource environment kind) error) :=
  opens_closeAndRaise (ends_closeSource.weaken (fun _ hheld => hheld.toUnclosed)
    (fun _ _ hfreed => hfreed.toOver) fun _ _ hover => hover) error

/-- The checkpointable path of a Parquet file closes the source itself when the file turns out to be
compressed. The first reads are outside of its `try` statements, so an exception of theirs leaks,
which being accounted for allows. -/
theorem opens_openCheckpointableParquet (resource : Resource) (encoding : Option String) :
    Opens kind Held (openCheckpointableParquet environment text resource kind encoding) := by
  apply Effect.Ends.ite
  · exact fun _ => opens_closeSource _
  · intro _
    apply Effect.Ends.bind (R := fun _ => Held)
    · exact (ends_read 6).weaken (fun _ hheld => hheld) (fun _ _ hheld => hheld)
        fun _ _ hworld => hworld.1.accounted hworld.2 trivial
    intro magic
    apply Effect.Ends.bind (R := fun _ => Held)
    · exact (ends_act (by decide)).weaken (fun _ hheld => hheld) (fun _ _ hheld => hheld)
        fun _ _ hworld => hworld.1.accounted hworld.2 trivial
    intro _
    apply Effect.Ends.ite
    · exact fun _ => opens_closeSource _
    · exact fun _ => opens_buildParquetCursorStream

/-- A Parquet file behind HTTP is peeked at. Where it is not compressed it is parsed as it is, else
it is decompressed first. The first peek is outside of every `try` statement, and behind
the others the source is closed. -/
theorem opens_openHttpParquet (encoding : Option String) :
    Opens kind Held (openHttpParquet environment text kind encoding) := by
  apply Effect.Ends.bind (R := fun _ => Held)
  · apply (ends_peekLoop 6 []).weaken
    · exact fun _ hheld => hheld
    · exact fun _ _ hheld => hheld
    · rintro error world ⟨hheld, size, hlast⟩
      exact hheld.accounted hlast trivial
  intro buffer
  apply Effect.Ends.ite
  · exact fun _ => (opens_buildBatchStream .peekable).weaken (fun _ hheld => hheld.ready nofun)
      (fun _ _ hopened => hopened) fun _ _ haccounted => haccounted
  · intro _
    apply Effect.Ends.bind (R := fun reader => Ready kind reader)
    · apply (ends_applyCompression buffer _).tryExcept
      intro error
      exact (ends_closeAndRaise ends_closeQuietly_peekable error).weaken
        (fun _ hworld => hworld) (fun _ _ hready => hready) fun _ _ hover => hover.accounted
    · exact fun reader => opens_buildBatchStream reader

/-- `source.close()` where the source may be closed already. -/
theorem ends_closeSource_again :
    Effect.Ends (fun world => Held world ∨ Over kind world) (closeSource environment kind)
      (fun _ => Over kind) (fun _ => Over kind) := by
  apply Effect.Ends.or
  · exact ends_closeSource.weaken (fun _ hheld => hheld.toUnclosed)
      (fun _ _ hfreed => hfreed.toOver) fun _ _ hover => hover
  · exact ends_closeSource_over

/-- The reader that `_open_compressed` and `open_response` make of a source. -/
theorem ends_guardedReader (resource : Resource) (encoding : Option String) :
    Effect.Ends Held
      (do
        let buffer ← guardUndeclaredContainer environment text resource
        applyCompression environment text kind buffer encoding)
      (fun reader => Ready kind reader) (fun _ world => Held world ∨ Over kind world) := by
  apply Effect.Ends.bind (R := fun _ => Held)
  · exact (ends_guard resource).weaken (fun _ hheld => hheld) (fun _ _ hheld => hheld)
      fun _ _ hheld => .inl hheld
  · exact fun buffer => ends_applyCompression buffer encoding

/-- A compressed source is peeked at, decompressed and parsed, and each of these steps settles the
source when it fails. -/
theorem opens_openCompressed (resource : Resource) (encoding : Option String) :
    Opens kind Held (openCompressed environment text resource kind encoding) := by
  apply Effect.Ends.bind (R := fun reader => Ready kind reader)
  · apply (ends_guardedReader resource encoding).tryExcept
    intro error
    exact (ends_closeAndRaise ends_closeSource_again error).weaken (fun _ hworld => hworld)
      (fun _ _ hready => hready) fun _ _ hover => hover.accounted
  · exact fun reader => opens_buildBatchStream reader

/-- Whatever the format, a source that was acquired is owned by the stream in the end, or accounted
for by the error. -/
theorem opens_openAcquired (resource : Resource) (access : AccessKind) (encoding : Option String) :
    Opens kind Held (openAcquired environment text resource access kind encoding) := by
  apply Effect.Ends.ite
  · exact fun _ => opens_openCheckpointableParquet resource encoding
  intro _
  apply Effect.Ends.ite
  · exact fun _ => opens_openHttpParquet encoding
  · exact fun _ => opens_openCompressed resource encoding

end Opening

/-! ### What was acquired -/

/-- The source that a call acquires. -/
def acquired : Happening Answer → Option SourceKind
  | ⟨.act (.openFile _), .ok _⟩ => some .file
  | ⟨.act (.enterContext hasClose), .ok _⟩ => some (.response hasClose true)
  | ⟨.download, .ok (streamed, _)⟩ =>
      some (if streamed = true then .response true false else .memory)
  | _ => none

/-- The sources that were acquired. -/
def acquisitions (history : List (Happening Answer)) : List SourceKind :=
  history.filterMap acquired

section Acquisitions

variable {kinds : List SourceKind} {kind : SourceKind} {environment : Environment Answer}
  {text : TextOps}

/-- Just these sources were acquired, and no stream over them was closed. -/
structure Acquired (kinds : List SourceKind) (world : AccessWorld) : Prop where
  sources : acquisitions world.history = kinds
  batchesKept : ¬ Called world.history .closeBatches

/-- One more event acquires at most one more source. -/
theorem acquisitions_append {history : List (Happening Answer)} {event : Happening Answer} :
    acquisitions (history ++ [event]) = acquisitions history ++ (acquired event).toList := by
  have hlast : [event].filterMap acquired = (acquired event).toList := by
    rw [List.filterMap_cons]
    cases acquired event <;> rfl
  calc (history ++ [event]).filterMap acquired
    _ = acquisitions history ++ [event].filterMap acquired := List.filterMap_append
    _ = acquisitions history ++ (acquired event).toList := by rw [hlast]

/-- A call adds the source that it acquires. -/
theorem Acquired.append {world : AccessWorld} (hacquired : Acquired kinds world)
    (event : Happening Answer) (hother : event.1 ≠ .act .closeBatches) :
    Acquired (kinds ++ (acquired event).toList)
      { world with history := world.history ++ [event] } where
  sources := by rw [acquisitions_append, hacquired.sources]
  batchesKept := fun hcalled => (called_append.mp hcalled).elim hacquired.batchesKept hother

/-- An operation that acquires nothing, and is not the close of a stream, keeps the list of the
acquired sources. The lemmas below carry this through every program that runs behind the
acquisition. -/
theorem keeps_ask {op : AccessOp} (hnothing : ∀ answer, acquired ⟨op, answer⟩ = none)
    (hother : op ≠ .act .closeBatches) :
    Effect.Keeps (Acquired kinds) (ask environment op : Effect AccessWorld Raised op.Reply) := by
  intro world hworld
  rw [ask_run]
  have happended := hworld.append ⟨op, environment world.history op⟩ hother
  rw [hnothing, Option.toList_none, List.append_nil] at happended
  exact happended

/-- The calls that acquire a source, or are made when a stream is closed. -/
def Action.isApart : Action → Bool
  | .openFile _ | .enterContext _ | .closeBatches => true
  | _ => false

/-- An action other than an acquisition and the close of a stream keeps the acquired sources. -/
theorem keeps_act {action : Action} (hother : action.isApart = false) :
    Effect.Keeps (Acquired kinds) (act environment action) := by
  apply keeps_ask
  · intro answer
    cases action <;> cases hother <;> rfl
  · rintro hsame
    cases hsame
    cases hother

theorem keeps_read (size : Nat) :
    Effect.Keeps (Acquired kinds) (read environment size) := keeps_ask (fun _ => rfl) nofun

theorem keeps_hasZstandard : Effect.Keeps (Acquired kinds) (hasZstandard environment) :=
  keeps_ask (fun _ => rfl) nofun

theorem keeps_nextBatch : Effect.Keeps (Acquired kinds) (nextBatch environment) :=
  keeps_ask (fun _ => rfl) nofun

theorem keeps_setLocals (update : Flags → Flags) :
    Effect.Keeps (Acquired kinds) (setLocals update : Effect AccessWorld Raised Unit) :=
  fun _ hworld => ⟨hworld.sources, hworld.batchesKept⟩

theorem keeps_readLocals :
    Effect.Keeps (Acquired kinds) (readLocals : Effect AccessWorld Raised Flags) :=
  fun _ hworld => hworld

/-- A program that branches keeps what both of its branches keep. -/
theorem keeps_ite {P : AccessWorld → Prop} {α : Type} {condition : Prop} [Decidable condition]
    {program other : Effect AccessWorld Raised α} (hthen : Effect.Keeps P program)
    (helse : Effect.Keeps P other) :
    Effect.Keeps P (if condition then program else other) := by
  split
  · exact hthen
  · exact helse

/-- A program whose exception is caught keeps what it kept without the handler. -/
theorem keeps_attempted {P : AccessWorld → Prop} {program : Effect AccessWorld Raised Unit}
    (hprogram : Effect.Keeps P program) : Effect.Keeps P (attempted program) := by
  apply Effect.Keeps.tryExcept
  · exact hprogram.bind fun _ => .pure none
  · exact fun error => keeps_ite (.pure _) (.raise error)

/-- Closing behind an error and raising it acquires nothing, as long as the close acquires nothing.
-/
theorem keeps_closeAndRaise {α : Type} {close : Effect AccessWorld Raised Unit}
    (hclose : Effect.Keeps (Acquired kinds) close) (error : Raised) :
    Effect.Keeps (Acquired kinds) (closeAndRaise close error : Effect AccessWorld Raised α) :=
  hclose.bind fun _ => .raise error

/-- The close of a source acquires none, whatever its kind. -/
theorem keeps_closeSource : Effect.Keeps (Acquired kinds) (closeSource environment kind) := by
  cases kind with
  | file => exact keeps_act rfl
  | memory => exact .pure ()
  | response hasClose context =>
      apply keeps_readLocals.bind
      intro flags
      refine keeps_ite (.pure ()) ?_
      apply (keeps_setLocals _).bind
      intro _
      apply (keeps_ite (keeps_attempted (keeps_act rfl)) (.pure none)).bind
      intro first
      apply (keeps_ite (keeps_attempted (keeps_act rfl)) (.pure none)).bind
      intro second
      cases first.or second with
      | some error => exact .raise error
      | none => exact .pure ()

theorem keeps_closePeekable : Effect.Keeps (Acquired kinds) (closePeekable environment kind) := by
  apply keeps_readLocals.bind
  exact fun flags => keeps_ite (.pure ()) ((keeps_setLocals _).bind fun _ => keeps_closeSource)

/-- Closing any reader on the way out acquires nothing. -/
theorem keeps_closeQuietly (reader : Reader) :
    Effect.Keeps (Acquired kinds) (closeQuietly environment kind reader) := by
  apply Effect.Keeps.bind
  · apply keeps_attempted
    cases reader with
    | source => exact keeps_closeSource
    | peekable | zstandard => exact keeps_closePeekable
    | translating format => exact (keeps_act rfl).tryFinally keeps_closePeekable
    | member => exact .pure ()
  · exact fun _ => .pure ()

/-- Peeking acquires nothing. The induction is on the attempts that are left. -/
theorem keeps_peekLoop (attempts : Nat) (buffer : Bytes) :
    Effect.Keeps (Acquired kinds) (peekLoop environment attempts buffer) := by
  induction attempts generalizing buffer with
  | zero => exact .pure buffer
  | succ attempts ih =>
      refine keeps_ite (.pure buffer) ?_
      apply (keeps_read _).bind
      exact fun chunk => keeps_ite (.pure buffer) (ih _)

theorem keeps_guard (resource : Resource) :
    Effect.Keeps (Acquired kinds) (guardUndeclaredContainer environment text resource) := by
  refine keeps_ite (.pure []) ?_
  apply (keeps_peekLoop 6 []).bind
  intro buffer
  cases containerFormat (buffer.take 6) with
  | none => exact .pure buffer
  | some container => exact .raise _

/-- Choosing the decompressor acquires nothing, in none of its branches. -/
theorem keeps_applyCompression (buffer : Bytes) (encoding : Option String) :
    Effect.Keeps (Acquired kinds)
      (applyCompression environment text kind buffer encoding) := by
  apply (keeps_peekLoop 6 buffer).bind
  intro buffer
  cases detectFormat (buffer.take 6) (text.folded (encoding.getD "")) with
  | none => exact .pure _
  | zip =>
      apply (keeps_act rfl).bind
      intro _
      apply (keeps_act rfl).bind
      intro _
      exact keeps_closePeekable.bind fun _ => .pure _
  | zstd =>
      apply keeps_hasZstandard.bind
      exact fun available => keeps_ite ((keeps_act rfl).bind fun _ => .pure _) (.pure _)
  | gzip | bzip2 => exact (keeps_act rfl).bind fun _ => .pure _

theorem keeps_newBatchStream (hasBatches : Bool) (reader : Reader) :
    Effect.Keeps (Acquired kinds) (newBatchStream kind hasBatches reader) :=
  (keeps_setLocals _).bind fun _ => .pure _

/-- Building the stream of batches acquires nothing: it works on the source that is there. -/
theorem keeps_buildBatchStream (reader : Reader) :
    Effect.Keeps (Acquired kinds) (buildBatchStream environment kind reader) := by
  apply Effect.Keeps.tryExcept
  · exact (keeps_act rfl).bind fun _ => keeps_nextBatch.bind fun first =>
      keeps_newBatchStream first reader
  · exact keeps_closeAndRaise (keeps_closeQuietly reader)

/-- Neither does building the stream with cursors. -/
theorem keeps_buildParquetCursorStream :
    Effect.Keeps (Acquired kinds) (buildParquetCursorStream environment kind) := by
  apply Effect.Keeps.bind
  · apply Effect.Keeps.tryExcept
    · exact (keeps_act rfl).bind fun _ => keeps_nextBatch
    · exact keeps_closeAndRaise (keeps_closeQuietly .source)
  intro first
  apply Effect.Keeps.bind
  · refine keeps_ite (.pure ()) ?_
    exact (keeps_act rfl).tryExcept fun error => keeps_ite (.pure ()) (.raise error)
  · exact fun _ => keeps_newBatchStream first .source

/-- Nothing that opens an acquired source acquires another one, in no format and on no path. -/
theorem keeps_openAcquired (resource : Resource) (access : AccessKind) (encoding : Option String) :
    Effect.Keeps (Acquired kinds)
      (openAcquired environment text resource access kind encoding) := by
  apply keeps_ite
  · refine keeps_ite (keeps_closeSource.bind fun _ => .raise _) ?_
    apply (keeps_read 6).bind
    intro magic
    apply (keeps_act rfl).bind
    exact fun _ => keeps_ite (keeps_closeSource.bind fun _ => .raise _)
      keeps_buildParquetCursorStream
  apply keeps_ite
  · apply (keeps_peekLoop 6 []).bind
    intro buffer
    refine keeps_ite (keeps_buildBatchStream .peekable) ?_
    apply Effect.Keeps.bind
    · apply (keeps_applyCompression buffer _).tryExcept
      exact keeps_closeAndRaise (keeps_closeQuietly .peekable)
    · exact fun reader => keeps_buildBatchStream reader
  · apply Effect.Keeps.bind
    · apply ((keeps_guard resource).bind fun buffer =>
        keeps_applyCompression buffer encoding).tryExcept
      exact keeps_closeAndRaise keeps_closeSource
    · exact fun reader => keeps_buildBatchStream reader

/-- What an exception leaves behind: at most one source was acquired, no stream was closed, and
the source is accounted for. -/
structure Abandoned (world : AccessWorld) : Prop where
  atMostOne : (acquisitions world.history).length ≤ 1
  batchesKept : ¬ Called world.history .closeBatches
  accounted : ∀ kind ∈ acquisitions world.history, Accounted kind world.history

/-- What is done with a source does not acquire another. -/
theorem ends_acquired {P : AccessWorld → Prop} {program : Effect AccessWorld Raised Opened}
    (hopens : Opens kind P program) (hkeeps : Effect.Keeps (Acquired [kind]) program) :
    Effect.Ends (fun world => P world ∧ Acquired [kind] world) program
      (fun opened world => Acquired [opened.kind] world ∧ Owns opened.kind opened world)
      (fun _ => Abandoned) := by
  have hboth := (hopens.weaken (fun _ (hworld : _ ∧ Acquired [kind] _) => hworld.1)
    (fun _ _ hopened => hopened) fun _ _ haccounted => haccounted).and
      (hkeeps.ends.weaken (fun _ (hworld : P _ ∧ _) => hworld.2) (fun _ _ hacquired => hacquired)
        fun _ _ hacquired => hacquired)
  apply hboth.weaken (fun _ hworld => hworld)
  · rintro opened world ⟨howns, hacquired⟩
    obtain rfl := howns.kind_eq
    exact ⟨hacquired, howns⟩
  · rintro error world ⟨haccounted, hacquired⟩
    refine ⟨by rw [hacquired.sources, List.length_singleton], hacquired.batchesKept, ?_⟩
    intro other hother
    rw [hacquired.sources, List.mem_singleton] at hother
    rw [hother]
    exact haccounted

/-- Before anything is acquired, an exception leaves nothing behind. -/
theorem abandoned_of_acquired_nil {world : AccessWorld} (hacquired : Acquired [] world) :
    Abandoned world where
  atMostOne := by rw [hacquired.sources]; exact Nat.zero_le 1
  batchesKept := hacquired.batchesKept
  accounted := by rw [hacquired.sources]; exact nofun

/-- Nothing was acquired, and nothing was closed. -/
def Fresh (world : AccessWorld) : Prop := Held world ∧ Acquired [] world

/-- A call that acquires a source, when it returns. -/
theorem ends_ask_acquires {op : AccessOp} (hcloses : ClosesNothing op)
    (hother : op ≠ .act .closeBatches)
    (hfailed : ∀ error, acquired ⟨op, .error error⟩ = none) :
    Effect.Ends Fresh (ask environment op : Effect AccessWorld Raised op.Reply)
      (fun reply world => Held world ∧ Acquired (acquired ⟨op, .ok reply⟩).toList world)
      (fun _ => Fresh) := by
  apply Ends.ask
  · rintro world reply ⟨hheld, hacquired⟩
    exact ⟨hheld.append hcloses, hacquired.append _ hother⟩
  · rintro world error ⟨hheld, hacquired⟩
    have happended := hacquired.append ⟨op, .error error⟩ hother
    rw [hfailed] at happended
    exact ⟨hheld.append hcloses, happended⟩

/-- A download acquires one source, the response or the bytes in memory, or none when it fails. -/
theorem ends_download :
    Effect.Ends Fresh (download environment)
      (fun reply world => Held world ∧
        Acquired [if reply.1 = true then .response true false else .memory] world)
      (fun _ => Fresh) :=
  ends_ask_acquires nofun nofun fun _ => rfl

/-- Opening a file acquires the file, or nothing when it raises. -/
theorem ends_openFile (access : AccessKind) :
    Effect.Ends Fresh (act environment (.openFile access))
      (fun _ world => Held world ∧ Acquired [.file] world) (fun _ => Fresh) :=
  ends_ask_acquires (closesNothing_act (by simp)) nofun fun _ => rfl

/-- Entering the context of a response acquires the response, or nothing when it fails. -/
theorem ends_enterContext (hasClose : Bool) :
    Effect.Ends Fresh (act environment (.enterContext hasClose))
      (fun _ world => Held world ∧ Acquired [.response hasClose true] world) (fun _ => Fresh) :=
  ends_ask_acquires (closesNothing_act (by simp)) nofun fun _ => rfl

/-- The one source of a resource is acquired, or none is and an error is raised. -/
theorem ends_openSource (resource : Resource) (access : AccessKind) :
    Effect.Ends Fresh (openSource environment text resource access)
      (fun opened world => Held world ∧ Acquired [opened.1] world) (fun _ => Fresh) := by
  cases access with
  | httpDownload =>
      apply ends_download.bind
      rintro ⟨streamed, encoding⟩
      exact .pure fun _ hworld => hworld
  | objectStorage | localFile =>
      apply (ends_openFile _).bind
      exact fun _ => .pure fun _ hworld => hworld
  | query endpoint => exact .raise fun _ hfresh => hfresh
  | stream => exact .raise fun _ hfresh => hfresh
  | other kind => exact .raise fun _ hfresh => hfresh

/-! ### Every way to open a resource -/

/-- Either exactly the source of the stream was acquired, and it is there to be read from, or at
most one source was acquired, and it is accounted for. -/
abbrev Settles (program : Effect AccessWorld Raised Opened) : Prop :=
  Effect.Ends Fresh program
    (fun opened world => Acquired [opened.kind] world ∧ Owns opened.kind opened world)
    (fun _ => Abandoned)

/-- A check in front of what settles. -/
theorem Settles.ofExcept_bind {α : Type} {result : Except Raised α}
    {next : α → Effect AccessWorld Raised Opened} (hnext : ∀ value, Settles (next value)) :
    Settles (Effect.ofExcept result >>= next) := by
  apply Effect.Ends.bind (R := fun _ => Fresh)
  · exact .ofExcept (fun _ _ _ hfresh => hfresh) fun _ _ _ hfresh =>
      abandoned_of_acquired_nil hfresh.2
  · exact hnext

/-- Opening a resource acquires one source, which the returned stream owns, or raises with at most
one source acquired, which was given back unless the last call says why not. -/
theorem settles_openResource (resource : Resource) (batchSize : Int) :
    Settles (openResource environment text resource batchSize) := by
  apply Settles.ofExcept_bind
  intro _
  apply Settles.ofExcept_bind
  intro access
  apply Effect.Ends.bind (R := fun opened world => Held world ∧ Acquired [opened.1] world)
  · exact (ends_openSource resource access).weaken (fun _ hfresh => hfresh)
      (fun _ _ hworld => hworld) fun _ _ hfresh => abandoned_of_acquired_nil hfresh.2
  · rintro ⟨kind, encoding⟩
    exact ends_acquired (opens_openAcquired resource access encoding)
      (keeps_openAcquired resource access encoding)

/-- The same holds where the reading starts from a cursor. -/
theorem settles_openFromCursor (resource : Resource) (rowGroup : Nat) (batchSize : Int) :
    Settles (openFromCursor environment text resource rowGroup batchSize) := by
  apply Settles.ofExcept_bind
  intro _
  apply Effect.Ends.ite
  · exact fun _ => .raise fun _ hfresh => abandoned_of_acquired_nil hfresh.2
  intro _
  apply Settles.ofExcept_bind
  intro access
  apply Effect.Ends.ite
  · intro _
    apply Effect.Ends.bind (R := fun _ world => Held world ∧ Acquired [.file] world)
    · exact (ends_openFile access).weaken (fun _ hfresh => hfresh) (fun _ _ hworld => hworld)
        fun _ _ hfresh => abandoned_of_acquired_nil hfresh.2
    · exact fun _ => ends_acquired opens_buildParquetCursorStream keeps_buildParquetCursorStream
  · exact fun _ => .raise fun _ hfresh => abandoned_of_acquired_nil hfresh.2

/-- A context that is left is given back. -/
theorem accounted_of_exit {hasClose : Bool} {history : List (Happening Answer)}
    {answer : Except Raised Unit} :
    Accounted (.response hasClose true) (history ++ [⟨.act .exitContext, answer⟩]) :=
  accounted_of_released (released_of_releases (releases_context hasClose)) id

/-- What `open_response` does inside its context. -/
theorem opens_fetched (resource : Resource) (hasClose : Bool) (encoding : Option String) :
    Opens (.response hasClose true) Held
      (do
        Effect.tryExcept (act environment .iterate) (closeAndRaise (act environment .exitContext))
        Effect.tryExcept
          (do
            let buffer ← guardUndeclaredContainer environment text resource
            let reader ← applyCompression environment text (.response hasClose true) buffer encoding
            buildBatchStream environment (.response hasClose true) reader)
          (closeAndRaise (closeSource environment (.response hasClose true)))) := by
  apply Effect.Ends.bind (R := fun _ => Held)
  · apply Effect.Ends.tryExcept (F := fun _ => Held)
    · exact (ends_act (by decide)).weaken (fun _ hheld => hheld) (fun _ _ hheld => hheld)
        fun _ _ hworld => hworld.1
    · intro error
      apply Effect.Ends.bind (R := fun _ world => Accounted (.response hasClose true) world.history)
      · exact Ends.ask (fun _ _ _ => accounted_of_exit) fun _ _ _ => accounted_of_exit
      · exact fun _ => .raise fun _ haccounted => haccounted
  · intro _
    apply Effect.Ends.tryExcept (F := fun _ world => Held world ∨
      Over (.response hasClose true) world)
    · apply Effect.Ends.bind (R := fun _ => Held)
      · exact (ends_guard resource).weaken (fun _ hheld => hheld) (fun _ _ hheld => hheld)
          fun _ _ hheld => .inl hheld
      intro buffer
      apply (ends_applyCompression buffer encoding).bind
      intro reader
      exact (ends_buildBatchStream reader).weaken (fun _ hready => hready)
        (fun _ _ hopened => hopened) fun _ _ hover => .inr hover
    · exact opens_closeAndRaise ends_closeSource_again

/-- The same holds for a response whose context is entered here. -/
theorem settles_openResponse (resource : Resource) (hasClose : Bool) (encoding : Option String)
    (batchSize : Int) :
    Settles (openResponse environment text resource hasClose encoding batchSize) := by
  apply Settles.ofExcept_bind
  intro _
  apply Effect.Ends.bind (R := fun _ world => Held world ∧
    Acquired [.response hasClose true] world)
  · exact (ends_enterContext hasClose).weaken (fun _ hfresh => hfresh) (fun _ _ hworld => hworld)
      fun _ _ hfresh => abandoned_of_acquired_nil hfresh.2
  intro _
  apply ends_acquired (opens_fetched resource hasClose encoding)
  apply Effect.Keeps.bind
  · exact (keeps_act rfl).tryExcept (keeps_closeAndRaise (keeps_act rfl))
  intro _
  apply Effect.Keeps.tryExcept
  · apply (keeps_guard resource).bind
    intro buffer
    apply (keeps_applyCompression buffer encoding).bind
    exact fun reader => keeps_buildBatchStream reader
  · exact keeps_closeAndRaise keeps_closeSource

end Acquisitions

/-! ## The source is not lost -/

/-- What happens between two of the calls here, to a stream that is read from. -/
def Reads (later : List (Happening Answer)) : Prop := ∀ event ∈ later, ClosesNothing event.1

/-- The world after a stream was read from. -/
def AccessWorld.after (world : AccessWorld) (later : List (Happening Answer)) : AccessWorld :=
  { world with history := world.history ++ later }

section Lost

variable {kind : SourceKind} {environment : Environment Answer} {text : TextOps}

/-- An open source stays open while batches are read. -/
theorem Held.after {world : AccessWorld} (hheld : Held world) {later : List (Happening Answer)}
    (hreads : Reads later) : Held (world.after later) where
  uncalled := by
    intro action haction hcalled
    unfold Called AccessWorld.after at hcalled
    rw [List.map_append, List.mem_append] at hcalled
    cases hcalled with
    | inl hearlier => exact hheld.uncalled action haction hearlier
    | inr hlater =>
        obtain ⟨event, hevent, hsame⟩ := List.mem_map.mp hlater
        exact hreads event hevent action haction hsame
  streamOpen := hheld.streamOpen
  peekableOpen := hheld.peekableOpen

/-- A source that was released once stays released, whatever happens later. -/
theorem Released.after {world : AccessWorld} (hreleased : Released kind world.history)
    (later : List (Happening Answer)) : Released kind (world.after later).history := by
  intro action haction
  unfold Called AccessWorld.after
  rw [List.map_append, List.mem_append]
  exact .inl (hreleased action haction)

/-- What reading from a stream leaves alone. -/
theorem Ready.after {reader : Reader} {world : AccessWorld} (hready : Ready kind reader world)
    {later : List (Happening Answer)} (hreads : Reads later) (hother : reader ≠ .member) :
    Held (world.after later) := by
  obtain ⟨hmember, -⟩ | ⟨-, hheld⟩ := hready
  · exact absurd hmember hother
  · exact hheld.after hreads

/-- The generator of the batches is closed first. Where that ends the task, the source is still
open. -/
theorem ends_closeBatches (hasBatches : Bool) :
    Effect.Ends Held (attemptedIf hasBatches (act environment .closeBatches)) (fun _ => Held)
      (fun _ world => Accounted kind world.history) := by
  apply Effect.Ends.ite
  · intro _
    apply ends_attempted (ends_act (by decide))
    · exact fun _ hheld => hheld
    · exact fun _ _ _ hworld => hworld.1
    · exact fun error world hfatal hworld => hworld.1.accounted hworld.2 hfatal
  · exact fun _ => .pure fun _ hheld => hheld

/-- The one reader that a stream owns is closed, whatever was raised before. -/
theorem ends_closeAll (reader : Reader) (first : Option Raised) :
    Effect.Ends (Ready kind reader) (closeAll environment kind [reader] first)
      (fun raised world => Over kind world ∧ (raised = none → Freed kind world))
      (fun _ => Over kind) := by
  apply Effect.Ends.bind (R := fun raised world => Over kind world ∧
    (raised = none → Freed kind world))
  · apply ends_attempted (ends_closeReader reader)
    · exact fun _ hfreed => ⟨hfreed.toOver, fun _ => hfreed⟩
    · exact fun _ _ _ hover => ⟨hover, nofun⟩
    · exact fun _ _ _ hover => hover
  · intro raised
    apply Effect.Ends.pure
    rintro world ⟨hover, hfreed⟩
    exact ⟨hover, fun hnone => hfreed (Option.or_eq_none_iff.mp hnone).2⟩

/-- `BatchStream.close` of a stream over a source that is still open. -/
theorem ends_closeBatchStream {opened : Opened} {reader : Reader}
    (hcloseables : opened.closeables = [reader]) (hother : reader ≠ .member) :
    Effect.Ends (fun world => world.locals.batchStreamClosed = false ∧ Held world)
      (closeBatchStream environment opened) (fun _ => Freed opened.kind)
      (fun _ world => Accounted opened.kind world.history) := by
  apply Effect.Ends.bind (R := fun flags world => flags = world.locals ∧
    world.locals.batchStreamClosed = false ∧ Held world)
  · exact Ends.readLocals
  intro flags
  apply Effect.Ends.ite
  · rintro hclosed world ⟨rfl, hopen, -⟩
    rw [hopen] at hclosed
    cases hclosed
  intro _
  apply Effect.Ends.bind (R := fun _ => Held)
  · exact Ends.setLocals fun world hworld =>
      ⟨⟨hworld.2.2.uncalled, hworld.2.2.streamOpen⟩, hworld.2.2.peekableOpen⟩
  intro _
  apply (ends_closeBatches opened.hasBatches).bind
  intro raised
  rw [hcloseables]
  apply Effect.Ends.bind (R := fun raised world => Over opened.kind world ∧
    (raised = none → Freed opened.kind world))
  · exact (ends_closeAll reader raised).weaken (fun _ hheld => hheld.ready hother)
      (fun _ _ hworld => hworld) fun _ _ hover => hover.accounted
  · intro first
    cases first with
    | some error => exact .raise fun _ hworld => hworld.1.accounted
    | none => exact .pure fun _ hworld => hworld.2 rfl

/-- No operation takes a release back. -/
theorem keeps_released_ask (op : AccessOp) :
    Effect.Keeps (fun world : AccessWorld => Released kind world.history)
      (ask environment op : Effect AccessWorld Raised op.Reply) := by
  intro world hreleased
  rw [ask_run]
  exact hreleased.after [_]

/-- `BatchStream.close` of a stream over an extracted member, whose archive was given back. -/
theorem keeps_closeBatchStream_member {opened : Opened} (hmember : opened.closeables = [.member]) :
    Effect.Keeps (fun world : AccessWorld => Released kind world.history)
      (closeBatchStream environment opened) := by
  have hread : Effect.Keeps (fun world : AccessWorld => Released kind world.history)
      (readLocals : Effect AccessWorld Raised Flags) := fun _ hreleased => hreleased
  have hset : ∀ update, Effect.Keeps (fun world : AccessWorld => Released kind world.history)
      (setLocals update : Effect AccessWorld Raised Unit) := fun _ _ hreleased => hreleased
  apply hread.bind
  intro flags
  refine keeps_ite (.pure ()) ?_
  apply (hset _).bind
  intro _
  rw [hmember]
  apply Effect.Keeps.bind
  · exact keeps_ite (keeps_attempted (keeps_released_ask _)) (.pure none)
  intro raised
  apply Effect.Keeps.bind
  · exact (keeps_attempted (.pure ())).bind fun _ => .pure _
  · intro first
    cases first with
    | some error => exact .raise error
    | none => exact .pure ()

/-- A stream that was read from can be closed: that gives its source back, except exactly where
the last call is one that ends the task. -/
theorem closes_after {opened : Opened} {world : AccessWorld}
    (howns : Owns opened.kind opened world) {later : List (Happening Answer)}
    (hreads : Reads later) :
    Effect.Ends (fun start => start = world.after later) (closeBatchStream environment opened)
      (fun _ last => Released opened.kind last.history)
      (fun _ last => ¬ Released opened.kind last.history ↔
        opened.closeables ≠ [.member] ∧ Leaking opened.kind last.history) := by
  obtain ⟨reader, hcloseables, hready⟩ := howns.ready
  by_cases hmember : reader = .member
  · subst hmember
    have hreleased : Released opened.kind (world.after later).history := by
      obtain ⟨-, hfreed⟩ | ⟨hother, -⟩ := hready
      · exact hfreed.released.after later
      · exact absurd rfl hother
    apply (keeps_closeBatchStream_member hcloseables).ends.weaken
    · rintro start rfl
      exact hreleased
    · exact fun _ _ hlast => hlast
    · exact fun _ _ hlast => iff_of_false (fun hheld => hheld hlast) fun hleaks =>
        hleaks.1 hcloseables
  · apply (ends_closeBatchStream hcloseables hmember).weaken
    · rintro start rfl
      exact ⟨howns.unclosed, hready.after hreads hmember⟩
    · exact fun _ _ hfreed => hfreed.released
    · intro _ last haccounted
      have hother : opened.closeables ≠ [.member] := by
        rw [hcloseables]
        simpa using hmember
      exact haccounted.trans ⟨fun hleaks => ⟨hother, hleaks⟩, And.right⟩

/-- Whichever way a resource is opened: a stream that is returned is over the one source that was
acquired, and after any reads closing the stream gives that source back, except exactly where the
last call of closing is an exception that ends the task. Where opening raises, at most one source
was acquired, no stream over it was closed, and that source was given back, except exactly where
the last call is one that nobody handles. -/
theorem sources_accounted_for (environment : Environment Answer) (text : TextOps)
    (resource : Resource) (batchSize : Int) (opening : Opening) :
    Effect.Ends (fun world => world = ⟨[], {}⟩) (opening.run environment text resource batchSize)
      (fun opened world => acquisitions world.history = [opened.kind] ∧
        (opened.closeables ≠ [.member] → releases opened.kind ≠ none →
          ¬ Released opened.kind world.history) ∧
        ∀ later, Reads later →
          Effect.Ends (fun start => start = world.after later)
            (closeBatchStream environment opened)
            (fun _ last => Released opened.kind last.history)
            (fun _ last => ¬ Released opened.kind last.history ↔
              opened.closeables ≠ [.member] ∧ Leaking opened.kind last.history))
      (fun _ world => (acquisitions world.history).length ≤ 1 ∧
        ¬ Called world.history .closeBatches ∧
        ∀ kind ∈ acquisitions world.history,
          (¬ Released kind world.history ↔ Leaking kind world.history)) := by
  have hsettles : Settles (opening.run environment text resource batchSize) := by
    cases opening with
    | stored => exact settles_openResource resource batchSize
    | fetched hasClose encoding => exact settles_openResponse resource hasClose encoding batchSize
    | cursor rowGroup => exact settles_openFromCursor resource rowGroup batchSize
  apply hsettles.weaken
  · rintro world rfl
    exact ⟨⟨⟨fun _ _ => List.not_mem_nil, rfl⟩, rfl⟩, rfl, List.not_mem_nil⟩
  · rintro opened world ⟨hacquired, howns⟩
    refine ⟨hacquired.sources, ?_, fun later hreads => closes_after howns hreads⟩
    intro hmember hreleases
    obtain ⟨reader, hcloseables, ⟨rfl, -⟩ | ⟨-, hheld⟩⟩ := howns.ready
    · exact absurd hcloseables hmember
    · exact hheld.not_released hreleases
  · exact fun _ _ habandoned =>
      ⟨habandoned.atMostOne, habandoned.batchesKept, habandoned.accounted⟩

end Lost

end DataSluice.Data.Access
