/-
# Opened resources

An opened resource reads its resource once, lazily, and owns the streams that it opens: the
raw one, and the one that its pipeline makes of it. A consuming call opens, consumes and
closes. An iterator opens at its first step and keeps the two streams among its own variables
until it ends, while the wrapper has them in its fields, so that `close` finds them too.

The reader, the pipeline, the consumers and the streams are the environment.
-/

import DataSluice.Lib.Effect
import DataSluice.Lib.Transition

namespace DataSluice.Application

open DataSluice.Lib

/-! ## What may be raised -/

/-- An exception; `Error` is what the outside raises. -/
inductive Raised (Error : Type)
  | /-- `OpenedResourceConsumedError` -/
    consumed (message : String)
  | /-- An `Exception`. -/
    exception (error : Error)
  | /-- `StopIteration` -/
    stopIteration
  | /-- The `RuntimeError` that a `StopIteration` leaves a generator as. -/
    generatorStopped
  | /-- A `BaseException` that is no `Exception`. -/
    baseException (error : Error)
  | /-- `GeneratorExit` -/
    generatorExit
  deriving DecidableEq

namespace Raised

variable {Error : Type}

/-- `isinstance(error, Exception)` -/
def isException : Raised Error → Bool
  | consumed _ | exception _ | stopIteration | generatorStopped => true
  | baseException _ | generatorExit => false

/-- An exception as it leaves a generator. -/
def outOfGenerator : Raised Error → Raised Error
  | stopIteration => generatorStopped
  | error => error

end Raised

/-! ## The environment -/

/-- The modules under `datasluice.integrations` that a stream is converted with. -/
inductive Integration
  | arrow
  | pandas
  | polars
  | duckdb
  deriving DecidableEq

/-- What a consuming call does with its stream. -/
inductive Consumer
  | convert (integration : Integration)
  | materialize (destinationUri mode : String) (transforms : List String)
  deriving DecidableEq

/-- An operation that is answered outside of the wrapper. -/
inductive ReadOp (Stream Pipeline : Type)
  | /-- `read_stream` -/
    readStream
  | /-- `run_transform_pipeline` -/
    runTransformPipeline (stream : Stream) (pipeline : Pipeline)
  | /-- The import of an integration. -/
    importIntegration (integration : Integration)
  | /-- The class names of the steps of a pipeline. -/
    stepNames (pipeline : Pipeline)
  | consume (consumer : Consumer) (stream : Stream)
  | /-- The next batch of `stream.iter_batches()` for one of the wrapper's iterators, or its
    end. -/
    nextBatch (iterator : Nat) (stream : Stream)
  | /-- The close of that batch iterator. -/
    closeBatches (iterator : Nat) (stream : Stream)
  | /-- `stream.close()` -/
    close (stream : Stream)

variable {Stream Pipeline Value Error : Type}

/-- What an operation returns. -/
@[reducible] def ReadOp.Reply (Value : Type) : ReadOp Stream Pipeline → Type
  | .readStream | .runTransformPipeline _ _ => Stream
  | .importIntegration _ | .closeBatches _ _ | .close _ => Unit
  | .stepNames _ => List String
  | .consume _ _ => Value
  | .nextBatch _ _ => Option Value

/-- An operation returns or raises. -/
abbrev ReadOp.Answer (Value Error : Type) (op : ReadOp Stream Pipeline) : Type :=
  Except (Raised Error) (op.Reply Value)

/-- The operations of a run so far, with their answers. -/
abbrev ReadHistory (Stream Pipeline Value Error : Type) : Type :=
  List (Happening (ReadOp.Answer Value Error : ReadOp Stream Pipeline → Type))

/-! ## The wrapper -/

/-- The generator of `_iter_batches`, with its local variables. -/
inductive Iteration (Stream : Type)
  | unstarted
  | running (rawStream stream : Stream)
  | ended

/-- The fields of `OpenedResource`, and the iterators it has given out. -/
structure OpenedResource (Stream Pipeline : Type) where
  pipeline : Option Pipeline := none
  rawStream : Option Stream := none
  transformedStream : Option Stream := none
  consumed : Bool := false
  closed : Bool := false
  manualIteration : Bool := false
  iterators : List (Iteration Stream) := []

namespace OpenedResource

/-- `is_open` -/
def isOpen (wrapper : OpenedResource Stream Pipeline) : Bool :=
  wrapper.rawStream.isSome && !wrapper.closed

/-- An iterator goes on as another one. -/
def setIterator (index : Nat) (iteration : Iteration Stream)
    (wrapper : OpenedResource Stream Pipeline) : OpenedResource Stream Pipeline :=
  { wrapper with iterators := wrapper.iterators.set index iteration }

end OpenedResource

/-- A wrapper and what happened so far. -/
abbrev ReadWorld (Stream Pipeline Value Error : Type) : Type :=
  World (ReadOp.Answer Value Error : ReadOp Stream Pipeline → Type)
    (OpenedResource Stream Pipeline)

/-- A method of the wrapper. -/
abbrev Method (Stream Pipeline Value Error Result : Type) : Type :=
  Effect (ReadWorld Stream Pipeline Value Error) (Raised Error) Result

section Methods

variable [DecidableEq Stream]
  (environment : Environment (ReadOp.Answer Value Error : ReadOp Stream Pipeline → Type))

/-- The `try` block of `_close_streams`: the exception of one close, if any. -/
def closeStream (closeable : Stream) :
    Method Stream Pipeline Value Error (Option (Raised Error)) :=
  Effect.tryExcept (do ask environment (.close closeable); return none) fun error =>
    if error.isException then pure (some error) else Effect.raise error

/-- `_close_streams`: the first exception among those of the closes. -/
def closeStreams (firstError : Option (Raised Error)) :
    List (Option Stream) → Method Stream Pipeline Value Error (Option (Raised Error))
  | [] => pure firstError
  | none :: closeables => closeStreams firstError closeables
  | some closeable :: closeables => do
      let raised ← closeStream environment closeable
      closeStreams (firstError.or raised) closeables

/-- `_finish` -/
def finish (rawStream stream : Option Stream) : Method Stream Pipeline Value Error Unit := do
  setLocals fun wrapper =>
    { wrapper with rawStream := none, transformedStream := none, closed := true }
  let firstError ←
    closeStreams environment none (if stream = rawStream then [rawStream] else [stream, rawStream])
  match firstError with
  | some error => Effect.raise error
  | none => pure ()

/-- `_finish_after_failure` -/
def finishAfterFailure (rawStream stream : Option Stream) :
    Method Stream Pipeline Value Error Unit :=
  (finish environment rawStream stream).tryExcept fun error =>
    if error.isException then pure () else Effect.raise error

/-- The handler of a failure: finish, and raise the same exception again. -/
def abandon {Result : Type} (rawStream stream : Option Stream) (error : Raised Error) :
    Method Stream Pipeline Value Error Result := do
  finishAfterFailure environment rawStream stream
  Effect.raise error

/-- `_ensure_available` -/
def ensureAvailable : Method Stream Pipeline Value Error Unit := do
  let wrapper ← readLocals
  if wrapper.closed || wrapper.consumed then
    Effect.raise (.consumed "OpenedResource has already been consumed or closed")
  else pure ()

/-- `read_stream` -/
def readStream : Method Stream Pipeline Value Error Stream := ask environment .readStream

/-- `run_transform_pipeline` -/
def runTransformPipeline (stream : Stream) (pipeline : Pipeline) :
    Method Stream Pipeline Value Error Stream :=
  ask environment (.runTransformPipeline stream pipeline)

/-- The stream that the pipeline makes of the raw one, or the raw one itself. -/
def transformedStream (rawStream : Stream) :
    Option Pipeline → Method Stream Pipeline Value Error Stream
  | none => pure rawStream
  | some pipeline =>
      (runTransformPipeline environment rawStream pipeline).tryExcept
        (abandon environment (some rawStream) none)

/-- `_begin` -/
def beginReading : Method Stream Pipeline Value Error (Stream × Stream) := do
  ensureAvailable
  setLocals fun wrapper => { wrapper with consumed := true }
  let rawStream ← (readStream environment).tryExcept (abandon environment none none)
  setLocals fun wrapper => { wrapper with rawStream := some rawStream }
  let wrapper ← readLocals
  let stream ← transformedStream environment rawStream wrapper.pipeline
  setLocals fun wrapper => { wrapper with transformedStream := some stream }
  return (rawStream, stream)

/-- `_consume` -/
def consume (consumer : Consumer) : Method Stream Pipeline Value Error Value := do
  let (rawStream, stream) ← beginReading environment
  let result ← (ask environment (.consume consumer stream)).tryExcept
    (abandon environment (some rawStream) (some stream))
  finish environment (some rawStream) (some stream)
  return result

/-- `to_arrow`, `to_pandas`, `to_polars` and `to_duckdb` -/
def convert (integration : Integration) : Method Stream Pipeline Value Error Value := do
  ask environment (.importIntegration integration)
  consume environment (.convert integration)

/-- `materialize` -/
def materialize (destinationUri mode : String) : Method Stream Pipeline Value Error Value := do
  let wrapper ← readLocals
  let transforms ← match wrapper.pipeline with
    | none => pure []
    | some pipeline => ask environment (.stepNames pipeline)
  consume environment (.materialize destinationUri mode transforms)

/-- `transform` -/
def transform (pipeline : Pipeline) : Method Stream Pipeline Value Error Unit := do
  ensureAvailable
  setLocals fun wrapper => { wrapper with pipeline := some pipeline }

/-- `__enter__` -/
def enter : Method Stream Pipeline Value Error Unit := do
  ensureAvailable
  setLocals fun wrapper => { wrapper with manualIteration := true }

/-- `iter_batches`: the index of a new iterator, of which nothing runs yet. -/
def iterBatches : Method Stream Pipeline Value Error Nat := do
  ensureAvailable
  let wrapper ← readLocals
  if wrapper.manualIteration then
    setLocals fun wrapper => { wrapper with iterators := wrapper.iterators ++ [.unstarted] }
    return wrapper.iterators.length
  else
    Effect.raise (.consumed "Manual batch iteration requires an OpenedResource context manager")

/-- `close` -/
def close : Method Stream Pipeline Value Error Unit := do
  let wrapper ← readLocals
  if wrapper.closed then pure ()
  else finish environment wrapper.rawStream wrapper.transformedStream

/-- `__exit__` -/
def exit : Method Stream Pipeline Value Error Unit :=
  (close environment).tryFinally
    (setLocals fun wrapper => { wrapper with manualIteration := false })

/-- An exception leaves the generator, which has ended with it. -/
def leaveGenerator {Result : Type} (index : Nat) (error : Raised Error) :
    Method Stream Pipeline Value Error Result := do
  setLocals (OpenedResource.setIterator index .ended)
  Effect.raise error.outOfGenerator

/-- The `else` clause of `_iter_batches`, with which the generator ends. -/
def exhaust (index : Nat) (rawStream stream : Stream) :
    Method Stream Pipeline Value Error (Option Value) := do
  finish environment (some rawStream) (some stream)
  setLocals (OpenedResource.setIterator index .ended)
  return none

/-- The `try` block of `_iter_batches`, from where the generator stands to its next batch or
its end. -/
def resumeBatches (index : Nat) (rawStream stream : Stream) :
    Method Stream Pipeline Value Error (Option Value) := do
  let batch ← (ask environment (.nextBatch index stream)).tryExcept
    (abandon environment (some rawStream) (some stream))
  match batch with
  | some batch => return some batch
  | none => exhaust environment index rawStream stream

/-- `_iter_batches` from its start to its first batch or its end. -/
def startBatches (index : Nat) : Method Stream Pipeline Value Error (Option Value) := do
  let (rawStream, stream) ← (beginReading environment).tryExcept (leaveGenerator index)
  setLocals (OpenedResource.setIterator index (.running rawStream stream))
  (resumeBatches environment index rawStream stream).tryExcept (leaveGenerator index)

/-- A batch from where a generator stands, or nothing when it is exhausted. -/
def stepGenerator (index : Nat) :
    Iteration Stream → Method Stream Pipeline Value Error (Option Value)
  | .ended => pure none
  | .unstarted => startBatches environment index
  | .running rawStream stream =>
      (resumeBatches environment index rawStream stream).tryExcept (leaveGenerator index)

/-- `next(iterator)` -/
def nextBatch (index : Nat) : Method Stream Pipeline Value Error (Option Value) := do
  let wrapper ← readLocals
  stepGenerator environment index (wrapper.iterators.getD index .ended)

/-- The exception that is raised where a generator stands when it is closed: `GeneratorExit`,
or what closing the batches raises to which it delegates. -/
def raisedByClose (index : Nat) (stream : Stream) :
    Method Stream Pipeline Value Error (Raised Error) :=
  Effect.tryExcept (do ask environment (.closeBatches index stream); return .generatorExit) pure

/-- The handler of `_iter_batches` for that exception. `GeneratorExit` does not leave. -/
def stopBatches (index : Nat) (rawStream stream : Stream) :
    Method Stream Pipeline Value Error Unit := do
  let raised ← raisedByClose environment index stream
  finishAfterFailure environment (some rawStream) (some stream)
  setLocals (OpenedResource.setIterator index .ended)
  if raised matches .generatorExit then pure () else Effect.raise raised.outOfGenerator

/-- A generator that has not started or has ended runs nothing when it is closed. -/
def closeGenerator (index : Nat) : Iteration Stream → Method Stream Pipeline Value Error Unit
  | .ended => pure ()
  | .unstarted => setLocals (OpenedResource.setIterator index .ended)
  | .running rawStream stream => stopBatches environment index rawStream stream

/-- `iterator.close()` -/
def closeIterator (index : Nat) : Method Stream Pipeline Value Error Unit := do
  let wrapper ← readLocals
  closeGenerator environment index (wrapper.iterators.getD index .ended)

/-! ## Runs -/

/-- A call of a method, or a step of an iterator. -/
inductive Call (Pipeline : Type)
  | transform (pipeline : Pipeline)
  | enter
  | exit
  | iterBatches
  | nextBatch (iterator : Nat)
  | closeIterator (iterator : Nat)
  | convert (integration : Integration)
  | materialize (destinationUri mode : String)
  | close

/-- What a call returns. -/
inductive Returned (Value : Type)
  | nothing
  | iterator (index : Nat)
  | batch (batch : Option Value)
  | value (value : Value)

/-- One call. -/
def runCall : Call Pipeline → Method Stream Pipeline Value Error (Returned Value)
  | .transform pipeline => do transform pipeline; return .nothing
  | .enter => do enter; return .nothing
  | .exit => do exit environment; return .nothing
  | .iterBatches => .iterator <$> iterBatches
  | .nextBatch index => .batch <$> nextBatch environment index
  | .closeIterator index => do closeIterator environment index; return .nothing
  | .convert integration => .value <$> convert environment integration
  | .materialize destinationUri mode => .value <$> materialize environment destinationUri mode
  | .close => do close environment; return .nothing

/-- One wrapper under any sequence of calls. -/
def wrapperSystem : System (ReadWorld Stream Pipeline Value Error) (Call Pipeline) where
  init world := world.history = [] ∧ world.locals = {}
  step world call := some (runCall environment call world).2

end Methods

end DataSluice.Application
