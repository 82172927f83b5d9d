/-
# Streamed exports of uData

`digest_stream_document` and `digest_stream_document_async` over a response that
`_SyncStreamGuard` and `_AsyncStreamGuard` guard. Three things take part, each with flags of its
own: the guard, which settles a call by one event; the loop, which digests the chunks; and the two
responses, the one beneath the guard and the one that the guard gives out.

The chunks come from a generator, which ends or raises where it likes. The clock, the sink, the
closing of the response beneath, the breakers and the event sinks are an environment. What may raise
there raises what a settlement handles: an `Exception` for the closing, and for the others a member
of `SETTLEMENT_ERRORS`, or of `ASYNC_SETTLEMENT_ERRORS` in the asynchronous version. Breakers and
event sinks return, and so does the clock that a report of used time reads.
-/

import DataSluice.Catalog.UdataCall
import DataSluice.Domain.Artifact
import DataSluice.Domain.HttpTarget
import DataSluice.Lib.Generator
import DataSluice.Lib.Utf8Decoder

namespace DataSluice.Catalog.UdataStream

open DataSluice.Lib DataSluice.Lib.Url DataSluice.Domain DataSluice.Runtime

/-! ## Exceptions -/

/-- The synchronous or the asynchronous version of everything here. -/
inductive Version
  | sync
  | async
  deriving DecidableEq

/-- `isinstance(error, SETTLEMENT_ERRORS)`, or `ASYNC_SETTLEMENT_ERRORS` -/
def Version.settles (version : Version) (error : Raised) : Bool :=
  error.isException ||
    [ErrorClass.exceptionGroup, .generatorExit, .keyboardInterrupt, .systemExit].contains
      error.errorClass ||
    (version == .async && error.errorClass == .cancelled)

/-- `except Exception`, or `except (Exception, asyncio.CancelledError)` -/
def Version.handlesCleanup (version : Version) (error : Raised) : Bool :=
  error.isException || (version == .async && error.errorClass == .cancelled)

/-- An exception that a settlement handles. -/
abbrev Version.SettlementError (version : Version) : Type :=
  { error : Raised // version.settles error = true }

/-- An exception that `close` of a guard handles. -/
abbrev Version.CleanupError (version : Version) : Type :=
  { error : Raised // version.handlesCleanup error = true }

/-! ## Events and operations -/

/-- How a call ended, as its last event says. -/
inductive Outcome
  | succeeded
  | failed
  | cancelled
  | budgetExhausted (usage : ℚ)
  deriving DecidableEq

/-- What `_emit` is given. -/
inductive StreamEvent
  | breakerStateChange (breakerOpen : Bool)
  | outcome (outcome : Outcome)

/-- What a transport yields. -/
inductive RawChunk
  | bytes (data : List UInt8)
  | /-- An object that is not `bytes`. -/
    other

/-- What is asked of the outside. -/
inductive StreamOp
  | /-- The clock of a deadline that is checked. -/
    readClock
  | /-- The clock of a report of used time. -/
    readUsage
  | sink (chunk : List UInt8)
  | /-- `close_callback` of the response beneath. -/
    closeResponse
  | inspect
  | recordTransportFailure
  | recordSuccess
  | emit (event : StreamEvent)

/-- What is answered. -/
@[reducible] def StreamOp.Answer (version : Version) : StreamOp → Type
  | .readClock => Except version.SettlementError ℚ
  | .readUsage => ℚ
  | .sink _ => Except version.SettlementError Unit
  | .closeResponse => Except version.CleanupError Unit
  | .inspect | .recordTransportFailure | .recordSuccess => CircuitState
  | .emit _ => Unit

/-- Where a generator of chunks stands. -/
inductive ChunksState
  | unstarted
  | suspended
  | finished
  deriving DecidableEq

/-- The flags of a guard, of its generator and of the two responses. -/
structure Guard where
  settled : Bool := false
  consumed : Bool := false
  chunks : ChunksState := .unstarted
  /-- `_closed` of the response beneath the guard. -/
  responseClosed : Bool := false
  /-- `_closed` of the response that the guard gives out. -/
  wrapperClosed : Bool := false

abbrev StreamEnvironment (version : Version) : Type := Environment (StreamOp.Answer version)

abbrev StreamHistory (version : Version) : Type := List (Happening (StreamOp.Answer version))

abbrev StreamWorld (version : Version) : Type := World (StreamOp.Answer version) Guard

abbrev StreamEffect (version : Version) (α : Type) : Type := Effect (StreamWorld version) Raised α

/-! ## Documents -/

/-- `SiteDocument`, without the fields that only other documents have. -/
structure SiteDocument where
  endpoint : String
  mediaType : String
  statusCode : Int
  sizeBytes : Nat
  sha256 : String
  metadata : List (Key × Value)
  format : Option String

/-- The constructor of `SiteDocument`. -/
def SiteDocument.new (endpoint mediaType : String) (statusCode : Int) (sizeBytes : Nat)
    (sha256 : String) (metadata : List (Key × Value)) (format : Option String) :
    Except Raised SiteDocument :=
  if endpoint = "" then
    .error (.valueError "uData site documents require a non-empty endpoint.")
  else if mediaType = "" then
    .error (.valueError "uData site documents require a media type.")
  else if ¬(200 ≤ statusCode ∧ statusCode ≤ 399) then
    .error (.valueError
      "uData site document status codes must be successful or redirect statuses.")
  else if isLowerSha256 sha256 = false then
    .error (.valueError "uData site documents require a SHA-256 digest.")
  else
    match freezeJsonObject "udata.site_document.metadata" metadata with
    | .error error => .error (.valueError error.message)
    | .ok frozen =>
        if format = some "" then
          .error (.valueError
            "uData site document formats must be non-empty strings when supplied.")
        else .ok { endpoint, mediaType, statusCode, sizeBytes, sha256, metadata := frozen, format }

/-- A call of `digest_stream_document` over a guarded response, and what it uses. -/
structure Export where
  version : Version
  unicode : UnicodeData
  redaction : MetadataRedaction
  /-- `error.__class__.__name__` -/
  className : Raised → String
  /-- `hashlib.sha256(…).hexdigest()` -/
  sha256 : List UInt8 → String
  operation : OperationId
  /-- The deadline of the guard. -/
  deadline : DeadlineMonitor
  statusCode : Int
  headers : List (String × String)
  /-- The chunks of the response beneath the guard. -/
  source : Generator version.SettlementError RawChunk
  endpoint : String
  expectedMediaType : Text
  maxBytes : Int
  /-- Whether a sink is given. -/
  hasSink : Bool
  format : Option String
  sha256_valid : ∀ bytes, isLowerSha256 (sha256 bytes) = true
  endpoint_ne : endpoint ≠ ""
  format_ne : format ≠ some ""
  statusCode_success : 200 ≤ statusCode ∧ statusCode < 300

namespace Export

variable (call : Export)

/-- `NativeCatalogError` of the call. -/
def nativeError (message : String) (metadata : List (Key × Value)) : Raised :=
  Udata.nativeError call.operation message (some call.statusCode)
    (boundedMetadata call.redaction metadata)

/-- The characters of `_MEDIA_TYPE` -/
def isMediaTypeChar (character : Char) : Bool :=
  ('a' ≤ character && character ≤ 'z') || character.isDigit ||
    "!#$&^_.+-".toList.contains character

/-- `_MEDIA_TYPE.fullmatch` -/
def isMediaType (text : Text) : Bool :=
  let (front, slash, back) := partition '/' text
  slash && !front.isEmpty && front.all isMediaTypeChar && !back.isEmpty && back.all isMediaTypeChar

/-- The loop over the parameters of a media type, with the names seen so far. -/
def checkParameters : List Text → List Text → Bool
  | _, [] => true
  | seen, parameter :: parameters =>
      let (key, separator, value) := partition '=' parameter
      let key := call.unicode.lower (strip key)
      if separator = false ∨ key ≠ "charset".toList ∨
          call.unicode.lower (strip value) ≠ "utf-8".toList ∨ key ∈ seen then false
      else checkParameters (key :: seen) parameters

/-- `_media_type` -/
def mediaTypeOf (value : Text) : Except Raised Text :=
  match (split ';' value).map strip with
  | [] => .error (call.nativeError "The uData response contains an invalid Content-Type header." [])
  | first :: parameters =>
      let mediaType := call.unicode.lower first
      if mediaType = [] ∨ isMediaType mediaType = false ∨ ',' ∈ mediaType then
        .error (call.nativeError "The uData response contains an invalid Content-Type header." [])
      else if call.checkParameters [] parameters = false then
        .error (call.nativeError
          "The uData response contains unsupported or duplicate Content-Type parameters." [])
      else if mediaType ≠ call.unicode.lower (strip (partition ';' call.expectedMediaType).1) then
        .error (call.nativeError
          "The uData site document media type differs from its route contract."
          [(.text "media_type", .str (.ofList mediaType))])
      else .ok mediaType

/-- `response_media_type`, where a media type is expected -/
def responseMediaType : Except Raised Text :=
  match call.headers.filter fun header =>
      call.unicode.lower header.1.toList == "content-type".toList with
  | [(_, value)] =>
      if strip value.toList = [] ∨ ',' ∈ value.toList then
        .error (call.nativeError
          "The uData response must supply exactly one non-blank Content-Type header." [])
      else call.mediaTypeOf value.toList
  | _ =>
      .error (call.nativeError
        "The uData response must supply exactly one non-blank Content-Type header." [])

/-- The document of a stream that was read to its end. -/
def document (mediaType : Text) (sizeBytes : Nat) (bytes : List UInt8) : Except Raised SiteDocument :=
  SiteDocument.new call.endpoint (.ofList mediaType) call.statusCode sizeBytes (call.sha256 bytes)
    [(.text "media_type", .str (.ofList mediaType)), (.text "size_bytes", .int sizeBytes),
      (.text "sha256", .str (call.sha256 bytes)), (.text "streamed", .bool true)]
    call.format

end Export

/-! ## Guards -/

section Guards

variable (call : Export) (environment : StreamEnvironment call.version)

/-- The clock, where it may raise. -/
def readClock : StreamEffect call.version ℚ := do
  Effect.ofExcept ((← perform environment .readClock).mapError Subtype.val)

/-- `self.deadline.assert_dispatchable(…)` -/
def assertDispatchable : StreamEffect call.version Unit :=
  (call.deadline.named call.operation.text Udata.platform).assertDispatchable
    (readClock call environment)

/-- `_emit` -/
def emit (event : StreamEvent) : StreamEffect call.version Unit := perform environment (.emit event)

/-- `_emit_breaker_change` -/
def emitBreakerChange (before after : Bool) : StreamEffect call.version Unit :=
  if before ≠ after then emit call environment (.breakerStateChange after) else pure ()

/-- What the breakers are told of a failure. -/
def recordFailure (error : Raised) : StreamEffect call.version Unit :=
  if error.isTransport = true then do
    let before ← perform environment .inspect
    let after ← perform environment .recordTransportFailure
    emitBreakerChange call environment before.isOpen after.isOpen
  else pure ()

/-- The event that an error ends the call with. -/
def failureOutcome (error : Raised) : StreamEffect call.version Outcome :=
  if error.errorClass = .budgetExhausted then do
    let now ← perform environment .readUsage
    return .budgetExhausted (max 0 (call.deadline.budget.total - call.deadline.left now))
  else if call.className error = "CancelledError" then pure .cancelled
  else pure .failed

/-- `settle_failure` of a guard that is not settled. -/
def settleFirstFailure (error : Raised) : StreamEffect call.version Unit := do
  setLocals fun guard => { guard with settled := true }
  recordFailure call environment error
  let outcome ← failureOutcome call environment error
  emit call environment (.outcome outcome)

/-- `settle_failure` -/
def settleFailure (error : Raised) : StreamEffect call.version Unit := do
  let guard ← readLocals
  if guard.settled = true then pure () else settleFirstFailure call environment error

/-- `except self._settlement_errors as error: self.settle_failure(error); raise` -/
def failAndRaise {α : Type} (error : Raised) : StreamEffect call.version α :=
  if call.version.settles error = true then do
    settleFailure call environment error
    Effect.raise error
  else Effect.raise error

/-- What `settle_success` does in time. -/
def settleFirstSuccess : StreamEffect call.version Unit := do
  setLocals fun guard => { guard with settled := true }
  let before ← perform environment .inspect
  let after ← perform environment .recordSuccess
  emitBreakerChange call environment before.isOpen after.isOpen
  emit call environment (.outcome .succeeded)

/-- `settle_success` of a guard that is not settled. -/
def settleInTime : StreamEffect call.version Unit := do
  Effect.tryExcept (assertDispatchable call environment) (failAndRaise call environment)
  settleFirstSuccess call environment

/-- `settle_success` -/
def settleSuccess : StreamEffect call.version Unit := do
  let guard ← readLocals
  if guard.settled = true then pure () else settleInTime call environment

/-- The generator of the guard is closed. Where it stands at a `yield`, a `GeneratorExit` is raised
there, which only the asynchronous version settles. -/
def closeChunks : StreamEffect call.version Unit := do
  let guard ← readLocals
  setLocals fun guard => { guard with chunks := .finished }
  if guard.chunks = .suspended ∧ call.version = .async then
    settleFailure call environment { errorClass := .generatorExit }
  else pure ()

/-- `self.response.close()`: the response beneath the guard is closed once. -/
def closeResponse : StreamEffect call.version Unit := do
  let guard ← readLocals
  if guard.responseClosed = true then pure ()
  else do
    setLocals fun guard => { guard with responseClosed := true }
    Effect.ofExcept ((← perform environment .closeResponse).mapError Subtype.val)

/-- What `close` of a guard does with the error of a clean-up. -/
def cleanupFailed {α : Type} (primary : Option Raised) (error : Raised) :
    StreamEffect call.version α :=
  if call.version.handlesCleanup error = true then
    match primary with
    | some primary => Effect.raise primary
    | none => do
        settleFailure call environment error
        Effect.raise error
  else Effect.raise error

/-- The error that closing the generator raises. -/
def primaryError : StreamEffect call.version (Option Raised) :=
  Effect.tryExcept
    (do
      closeChunks call environment
      return none)
    fun error =>
      if call.version.handlesCleanup error = true then do
        settleFailure call environment error
        return some error
      else Effect.raise error

/-- A guard that is closed before its chunks are consumed settles a failure. -/
def settleUnfinished : StreamEffect call.version Unit := do
  let guard ← readLocals
  if guard.settled = false ∧ guard.consumed = false then
    settleFailure call environment
      (.runtimeError "The catalog stream was closed before completion.")
  else pure ()

/-- `close` of a guard -/
def closeGuard : StreamEffect call.version Unit := do
  let primary ← primaryError call environment
  Effect.tryExcept (closeResponse call environment) (cleanupFailed call environment primary)
  match primary with
  | some primary => Effect.raise primary
  | none => settleUnfinished call environment

/-- `close` of the response that the guard gives out -/
def close : StreamEffect call.version Unit := do
  let guard ← readLocals
  if guard.wrapperClosed = true then pure ()
  else do
    setLocals fun guard => { guard with wrapperClosed := true }
    closeGuard call environment

/-! ## Chunks -/

/-- `RuntimeStreamResponse.__iter__` -/
def iterate {version : Version} :
    Generator version.SettlementError RawChunk → Generator Raised (List UInt8)
  | .stop => .stop
  | .raise error => .raise error.1
  | .yield (.bytes data) rest =>
      if data.isEmpty = true then iterate rest else .yield data (iterate rest)
  | .yield .other _ =>
      .raise (.transportError "The catalog transport yielded a non-byte stream chunk.")

/-- An error inside the `try` block of `chunks` -/
def chunksFailed {α : Type} (error : Raised) : StreamEffect call.version α := do
  setLocals fun guard => { guard with chunks := .finished }
  if call.version = .sync ∧ error.errorClass = .generatorExit then Effect.raise error
  else failAndRaise call environment error

/-- The size so far, the decoder, and what was given to the hash. -/
structure Digesting where
  sizeBytes : Nat := 0
  decoder : Utf8.Decoder := {}
  hashed : List UInt8 := []

/-- `sink(chunk)`, when there is one -/
def giveToSink (chunk : List UInt8) : StreamEffect call.version Unit :=
  if call.hasSink = true then do
    Effect.ofExcept ((← perform environment (.sink chunk)).mapError Subtype.val)
  else pure ()

/-- The exception of a decoder. -/
def decodeError : Raised := { errorClass := .unicodeDecodeError }

/-- `_digest_stream_chunk` -/
def digestStreamChunk (chunk : List UInt8) (digesting : Digesting) :
    StreamEffect call.version Digesting :=
  let nextSize := digesting.sizeBytes + chunk.length
  if call.maxBytes < nextSize then
    Effect.raise (call.nativeError "The uData site export exceeds its configured byte limit." [])
  else
    match digesting.decoder.decode chunk with
    | none => Effect.raise decodeError
    | some decoder => do
        giveToSink call environment chunk
        return { sizeBytes := nextSize, decoder, hashed := digesting.hashed ++ chunk }

/-- The body of the loop; the response that is iterated passes an empty chunk over. -/
def digestNonEmpty (chunk : List UInt8) (digesting : Digesting) :
    StreamEffect call.version Digesting :=
  if chunk.isEmpty = true then pure digesting else digestStreamChunk call environment chunk digesting

/-- `for chunk in response`, over the chunks that the guard checks the deadline for -/
def digestChunks :
    Generator Raised (List UInt8) → Digesting → StreamEffect call.version Digesting
  | .stop, digesting => do
      setLocals fun guard => { guard with consumed := true, chunks := .finished }
      return digesting
  | .raise error, _ => chunksFailed call environment error
  | .yield chunk rest, digesting => do
      Effect.tryExcept (assertDispatchable call environment) (chunksFailed call environment)
      setLocals fun guard => { guard with chunks := .suspended }
      let digesting ← digestNonEmpty call environment chunk digesting
      digestChunks rest digesting

/-! ## The document -/

/-- The `try` block of `digest_stream_document` -/
def readStream : StreamEffect call.version (Text × Digesting) := do
  let mediaType ← Effect.ofExcept call.responseMediaType
  let digesting ← digestChunks call environment (iterate call.source) {}
  if digesting.decoder.isDone = true then return (mediaType, digesting)
  else Effect.raise decodeError

/-- The `try` block with its handlers: what was read, or the failure. -/
def tryReadStream : StreamEffect call.version (Except Raised (Text × Digesting)) :=
  Effect.tryExcept (Except.ok <$> readStream call environment) fun error =>
    if error.errorClass = .unicodeDecodeError then
      pure (.error (call.nativeError "The uData site document is not valid UTF-8." []))
    else if call.version.settles error = true then pure (.error error)
    else Effect.raise error

/-- `_report_sync_stream_failure`, or the asynchronous one -/
def reportStreamFailure (error : Raised) : StreamEffect call.version (Option Raised) :=
  Effect.tryExcept
    (do
      settleFailure call environment error
      return none)
    fun reported =>
      if call.version.settles reported = true then pure (some reported) else Effect.raise reported

/-- `_finish_sync_stream_failure`, or the asynchronous one. The cause that the error is raised from
is not kept. -/
def finishStreamFailure {α : Type} (error : Raised) : StreamEffect call.version α := do
  Effect.tryExcept (close call environment) fun cleanup =>
    if call.version.settles cleanup = true then Effect.raise error else Effect.raise cleanup
  Effect.raise error

/-- `_finish_sync_stream_success`, or the asynchronous one -/
def finishStreamSuccess : StreamEffect call.version Unit := do
  close call environment
  Effect.tryExcept (settleSuccess call environment) (failAndRaise call environment)

/-- What follows the `try` block. -/
def finishStream : Except Raised (Text × Digesting) → StreamEffect call.version SiteDocument
  | .error failure => do
      let _ ← reportStreamFailure call environment failure
      finishStreamFailure call environment failure
  | .ok (mediaType, digesting) => do
      finishStreamSuccess call environment
      Effect.ofExcept (call.document mediaType digesting.sizeBytes digesting.hashed)

/-- `digest_stream_document`, or `digest_stream_document_async` -/
def digestStreamDocument : StreamEffect call.version SiteDocument :=
  if call.maxBytes < 1 then
    Effect.raise (.valueError "uData root export limits must be positive integers.")
  else do
    let read ← tryReadStream call environment
    finishStream call environment read

end Guards

end DataSluice.Catalog.UdataStream
