/-
# Opening and closing streams

What the parts of an opened resource's methods do with the history of its streams. A close
calls `close` on every stream it is given, whatever the other closes raise. Opening is
refused, or fails with nothing left open, or gives the two streams that it opened. A consuming
call that is not refused leaves nothing open.
-/

import DataSluice.Application.OpenedResource

namespace DataSluice.Application

open DataSluice.Lib

variable {Stream Pipeline Value Error : Type}

/-! ## What a history shows -/

section Histories

variable (happening : Happening (ReadOp.Answer Value Error : ReadOp Stream Pipeline → Type))
  (history : ReadHistory Stream Pipeline Value Error)

/-- The stream that an operation opened. -/
def openedStream :
    Happening (ReadOp.Answer Value Error : ReadOp Stream Pipeline → Type) → Option Stream
  | ⟨.readStream, .ok stream⟩ => some stream
  | ⟨.runTransformPipeline _ _, .ok stream⟩ => some stream
  | _ => none

/-- The stream whose `close` was called. -/
def closedStream :
    Happening (ReadOp.Answer Value Error : ReadOp Stream Pipeline → Type) → Option Stream
  | ⟨.close stream, _⟩ => some stream
  | _ => none

/-- The reader was asked for the resource. -/
def isRead : Happening (ReadOp.Answer Value Error : ReadOp Stream Pipeline → Type) → Bool
  | ⟨.readStream, _⟩ => true
  | _ => false

/-- The exception with which reading, transforming or consuming failed. Closing is none of
the three. -/
def failure :
    Happening (ReadOp.Answer Value Error : ReadOp Stream Pipeline → Type) → Option (Raised Error)
  | ⟨.close _, _⟩ => none
  | ⟨.closeBatches _ _, _⟩ => none
  | ⟨_, .error error⟩ => some error
  | _ => none

/-- The raw and transformed streams that were opened. -/
def openedStreams : List Stream := history.filterMap openedStream

def closedStreams : List Stream := history.filterMap closedStream

/-- How often the resource was opened. -/
def reads : Nat := history.countP isRead

def failures : List (Raised Error) := history.filterMap failure

/-- Between two histories the resource was opened `count` times, and these streams were opened
and these failures happened. -/
structure Did (source target : ReadHistory Stream Pipeline Value Error) (count : Nat)
    (opened : List Stream) (failed : List (Raised Error)) : Prop where
  reads_eq : reads target = reads source + count
  opened_eq : openedStreams target = openedStreams source ++ opened
  failures_eq : failures target = failures source ++ failed
  closed_subset : ∀ stream ∈ closedStreams source, stream ∈ closedStreams target

theorem Did.refl : Did history history 0 [] [] where
  reads_eq := rfl
  opened_eq := (List.append_nil _).symm
  failures_eq := (List.append_nil _).symm
  closed_subset := fun _ hclosed => hclosed

theorem Did.trans {source middle target : ReadHistory Stream Pipeline Value Error}
    {count more : Nat} {opened others : List Stream} {failed later : List (Raised Error)}
    (hfirst : Did source middle count opened failed)
    (hsecond : Did middle target more others later) :
    Did source target (count + more) (opened ++ others) (failed ++ later) where
  reads_eq := by rw [hsecond.reads_eq, hfirst.reads_eq, Nat.add_assoc]
  opened_eq := by rw [hsecond.opened_eq, hfirst.opened_eq, List.append_assoc]
  failures_eq := by rw [hsecond.failures_eq, hfirst.failures_eq, List.append_assoc]
  closed_subset := fun stream hclosed =>
    hsecond.closed_subset stream (hfirst.closed_subset stream hclosed)

/-- Operations that open nothing go on. -/
theorem Did.quiet {source middle target : ReadHistory Stream Pipeline Value Error}
    {count : Nat} {opened : List Stream} {failed later : List (Raised Error)}
    (hfirst : Did source middle count opened failed) (hsecond : Did middle target 0 [] later) :
    Did source target count opened (failed ++ later) := by
  have hboth := hfirst.trans hsecond
  rw [List.append_nil] at hboth
  exact hboth

/-- What one happening does. -/
theorem Did.append : Did history (history ++ [happening]) (isRead happening).toNat
    (openedStream happening).toList (failure happening).toList where
  reads_eq := by
    rw [reads, List.countP_append, reads]
    cases h : isRead happening <;> simp [h]
  opened_eq := by
    rw [openedStreams, List.filterMap_append, openedStreams]
    cases h : openedStream happening <;> simp [h]
  failures_eq := by
    rw [failures, List.filterMap_append, failures]
    cases h : failure happening <;> simp [h]
  closed_subset := by
    intro stream hclosed
    rw [closedStreams, List.filterMap_append]
    exact List.mem_append_left _ hclosed

theorem mem_closedStreams_close (stream : Stream)
    (answer : ReadOp.Answer Value Error (.close stream : ReadOp Stream Pipeline)) :
    stream ∈ closedStreams (history ++ [⟨.close stream, answer⟩]) := by
  rw [closedStreams, List.filterMap_append]
  exact List.mem_append_right _ List.mem_cons_self

end Histories

/-! ## Closing -/

/-- What closing a stream raises is an `Exception`. -/
def ClosesRaiseExceptions
    (environment : Environment (ReadOp.Answer Value Error : ReadOp Stream Pipeline → Type)) :
    Prop :=
  ∀ history stream error, environment history (.close stream) = .error error →
    error.isException = true

/-- The wrapper was closed with these two streams. -/
structure Finished (rawStream stream : Option Stream)
    (source target : ReadWorld Stream Pipeline Value Error) : Prop where
  locals_eq : target.locals =
    { source.locals with rawStream := none, transformedStream := none, closed := true }
  did : Did source.history target.history 0 [] []
  closed : ∀ owned, stream = some owned ∨ rawStream = some owned →
    owned ∈ closedStreams target.history

section Closing

variable [DecidableEq Stream]
  {environment : Environment (ReadOp.Answer Value Error : ReadOp Stream Pipeline → Type)}
  (hcloses : ClosesRaiseExceptions environment)
  (world : ReadWorld Stream Pipeline Value Error)

include hcloses

omit [DecidableEq Stream] in
theorem closeStream_run (closeable : Stream) :
    ∃ raised answer, closeStream environment closeable world =
        (.ok raised, { world with history := world.history ++ [⟨.close closeable, answer⟩] }) ∧
      ∀ error ∈ raised, error.isException = true := by
  rw [closeStream, Effect.tryExcept_run, Effect.bind_run, ask_run]
  cases hanswer : environment world.history (.close closeable) with
  | ok done => exact ⟨none, _, rfl, fun _ hmem => absurd hmem (Option.not_mem_none _)⟩
  | error error =>
      have hexception := hcloses _ _ _ hanswer
      refine ⟨some error, _, by simp only [hexception, if_true]; rfl, ?_⟩
      intro other hmem
      rw [← Option.mem_some_iff.mp hmem]
      exact hexception

omit [DecidableEq Stream] in
/-- Every stream is closed, whatever the other closes raise. -/
theorem closeStreams_run (closeables : List (Option Stream)) (firstError : Option (Raised Error))
    (hfirst : ∀ error ∈ firstError, error.isException = true) :
    ∃ raised target, closeStreams environment firstError closeables world = (.ok raised, target) ∧
      (∀ error ∈ raised, error.isException = true) ∧
      target.locals = world.locals ∧ Did world.history target.history 0 [] [] ∧
      ∀ owned, some owned ∈ closeables → owned ∈ closedStreams target.history := by
  induction closeables generalizing firstError world with
  | nil =>
      exact ⟨firstError, world, rfl, hfirst, rfl, .refl _,
        fun _ hmem => absurd hmem List.not_mem_nil⟩
  | cons closeable closeables ih =>
      cases closeable with
      | none =>
          obtain ⟨raised, target, hrun, hraised, hlocals, hdid, hclosed⟩ :=
            ih world firstError hfirst
          refine ⟨raised, target, hrun, hraised, hlocals, hdid, ?_⟩
          intro owned hmem
          rcases List.mem_cons.mp hmem with heq | hmem
          · cases heq
          · exact hclosed owned hmem
      | some closeable =>
          obtain ⟨raised, answer, hclose, hexception⟩ := closeStream_run hcloses world closeable
          have hnext : ∀ error ∈ firstError.or raised, error.isException = true := by
            intro error hmem
            rcases Option.or_eq_some_iff.mp hmem with hmem | ⟨-, hmem⟩
            · exact hfirst error hmem
            · exact hexception error hmem
          obtain ⟨error, target, hrun, hraised, hlocals, hdid, hclosed⟩ :=
            ih { world with history := world.history ++ [⟨.close closeable, answer⟩] } _ hnext
          refine ⟨error, target, ?_, hraised, hlocals, (Did.append _ _).trans hdid, ?_⟩
          · rw [closeStreams, Effect.bind_run, hclose]
            exact hrun
          · intro owned hmem
            rcases List.mem_cons.mp hmem with heq | hmem
            · cases heq
              exact hdid.closed_subset _ (mem_closedStreams_close _ _ _)
            · exact hclosed owned hmem

theorem finish_run (rawStream stream : Option Stream) :
    ∃ result target, finish environment rawStream stream world = (result, target) ∧
      Finished rawStream stream world target ∧
      ∀ error, result = .error error → error.isException = true := by
  obtain ⟨raised, target, hrun, hraised, hlocals, hdid, hclosed⟩ := closeStreams_run hcloses
    { world with
      locals := { world.locals with rawStream := none, transformedStream := none, closed := true } }
    (if stream = rawStream then [rawStream] else [stream, rawStream]) none
    fun _ hmem => absurd hmem (Option.not_mem_none _)
  have hfinished : Finished rawStream stream world target := by
    refine ⟨hlocals, hdid, fun owned howned => hclosed owned ?_⟩
    split
    · next hsame =>
        rw [hsame, or_self] at howned
        exact List.mem_singleton.mpr howned.symm
    · rcases howned with howned | howned
      · exact List.mem_cons.mpr (.inl howned.symm)
      · exact List.mem_cons_of_mem _ (List.mem_singleton.mpr howned.symm)
  have hfinish : finish environment rawStream stream world =
      (raised.elim (.ok ()) .error, target) := by
    rw [finish, Effect.bind_run]
    show ((closeStreams environment none _ >>= _) _) = _
    rw [Effect.bind_run, hrun]
    cases raised <;> rfl
  refine ⟨_, target, hfinish, hfinished, ?_⟩
  intro error herror
  cases raised with
  | none => cases herror
  | some first => cases herror; exact hraised _ rfl

/-- What closing raises is lost behind a failure. -/
theorem finishAfterFailure_run (rawStream stream : Option Stream) :
    ∃ target, finishAfterFailure environment rawStream stream world = (.ok (), target) ∧
      Finished rawStream stream world target := by
  obtain ⟨result, target, hrun, hfinished, hexception⟩ :=
    finish_run hcloses world rawStream stream
  refine ⟨target, ?_, hfinished⟩
  rw [finishAfterFailure, Effect.tryExcept_run, hrun]
  cases result with
  | ok done => rfl
  | error error => simp only [hexception error rfl, if_true]; rfl

theorem abandon_run {Result : Type} (rawStream stream : Option Stream) (error : Raised Error) :
    ∃ target, (abandon environment rawStream stream error :
        Method Stream Pipeline Value Error Result) world = (.error error, target) ∧
      Finished rawStream stream world target := by
  obtain ⟨target, hrun, hfinished⟩ := finishAfterFailure_run hcloses world rawStream stream
  refine ⟨target, ?_, hfinished⟩
  rw [abandon, Effect.bind_run, hrun]
  rfl

/-- An operation under the handler of failures returns, or it fails and the wrapper is closed. -/
theorem attempt_cases (op : ReadOp Stream Pipeline) (rawStream stream : Option Stream) :
    (∃ value, (ask environment op).tryExcept (abandon environment rawStream stream) world =
      (.ok value, { world with history := world.history ++ [⟨op, .ok value⟩] })) ∨
    ∃ error target,
      (ask environment op).tryExcept (abandon environment rawStream stream) world =
        (.error error, target) ∧
      Finished rawStream stream { world with history := world.history ++ [⟨op, .error error⟩] }
        target := by
  rw [Effect.tryExcept_run, ask_run]
  cases hanswer : environment world.history op with
  | ok value => exact .inl ⟨value, rfl⟩
  | error error =>
      obtain ⟨target, hrun, hfinished⟩ := abandon_run hcloses
        { world with history := world.history ++ [⟨op, .error error⟩] } rawStream stream error
      exact .inr ⟨error, target, hrun, hfinished⟩

/-! ## Opening and consuming -/

/-- The wrapper was neither consumed nor closed. -/
def OpenedResource.available (wrapper : OpenedResource Stream Pipeline) : Bool :=
  !(wrapper.closed || wrapper.consumed)

omit hcloses [DecidableEq Stream] in
theorem ensureAvailable_run : (ensureAvailable : Method Stream Pipeline Value Error Unit) world =
    (if world.locals.available then .ok ()
      else .error (.consumed "OpenedResource has already been consumed or closed"), world) := by
  rw [ensureAvailable, Effect.bind_run, OpenedResource.available]
  show (if world.locals.closed || world.locals.consumed then _ else _ : Method _ _ _ _ _) world = _
  cases world.locals.closed || world.locals.consumed <;> rfl

/-- The resource was opened for a caller that has the two streams now. -/
structure Begun (source : ReadWorld Stream Pipeline Value Error) (rawStream stream : Stream)
    (target : ReadWorld Stream Pipeline Value Error) : Prop where
  locals_eq : target.locals =
    { source.locals with
      consumed := true, rawStream := some rawStream, transformedStream := some stream }
  did : ∃ opened, Did source.history target.history 1 opened [] ∧
    ∀ owned ∈ opened, owned = rawStream ∨ owned = stream

/-- The resource was opened, or could not be, and what was opened is closed again. A failure is
the result. -/
structure Consumed {Result : Type} (source : ReadWorld Stream Pipeline Value Error)
    (result : Except (Raised Error) Result) (target : ReadWorld Stream Pipeline Value Error) :
    Prop where
  locals_eq : target.locals =
    { source.locals with
      consumed := true, rawStream := none, transformedStream := none, closed := true }
  did : ∃ opened failed, Did source.history target.history 1 opened failed ∧
    (∀ owned ∈ opened, owned ∈ closedStreams target.history) ∧
    ∀ error ∈ failed, result = .error error

/-- The pipeline gives a stream, or it fails and the raw stream is closed. -/
theorem transformedStream_cases (rawStream : Stream) (pipeline : Option Pipeline) :
    (∃ stream target opened,
      transformedStream environment rawStream pipeline world = (.ok stream, target) ∧
      target.locals = world.locals ∧ Did world.history target.history 0 opened [] ∧
      ∀ owned ∈ opened, owned = stream) ∨
    ∃ error target,
      transformedStream environment rawStream pipeline world = (.error error, target) ∧
      target.locals =
        { world.locals with rawStream := none, transformedStream := none, closed := true } ∧
      Did world.history target.history 0 [] [error] ∧
      rawStream ∈ closedStreams target.history := by
  cases pipeline with
  | none =>
      exact .inl ⟨rawStream, world, [], rfl, rfl, .refl _, fun _ h => absurd h List.not_mem_nil⟩
  | some pipeline =>
      rw [transformedStream]
      rcases attempt_cases hcloses world (.runTransformPipeline rawStream pipeline)
        (some rawStream) none with ⟨stream, hok⟩ | ⟨error, target, hfailed, hfinished⟩
      · left
        refine ⟨stream, _, [stream], hok, rfl, Did.append _ _, ?_⟩
        exact fun owned howned => List.mem_singleton.mp howned
      · right
        exact ⟨error, target, hfailed, hfinished.locals_eq, (Did.append _ _).trans hfinished.did,
          hfinished.closed _ (.inr rfl)⟩

/-- Opening is refused, or it fails with nothing left open, or it gives two streams. -/
theorem beginReading_cases :
    (world.locals.available = false ∧ ∃ message,
      beginReading environment world = (.error (.consumed message), world)) ∨
    (world.locals.available = true ∧
      ((∃ error target, beginReading environment world = (.error error, target) ∧
          Consumed world (.error error : Except (Raised Error) Unit) target) ∨
        ∃ rawStream stream target,
          beginReading environment world = (.ok (rawStream, stream), target) ∧
          Begun world rawStream stream target)) := by
  cases havailable : world.locals.available with
  | false =>
      refine .inl ⟨rfl, "OpenedResource has already been consumed or closed", ?_⟩
      rw [beginReading, Effect.bind_run, ensureAvailable_run, havailable]
      rfl
  | true =>
      refine .inr ⟨rfl, ?_⟩
      let start : ReadWorld Stream Pipeline Value Error :=
        { world with locals := { world.locals with consumed := true } }
      have hbegin : beginReading environment world =
          ((readStream environment).tryExcept (abandon environment none none) >>=
            fun rawStream => do
              setLocals fun wrapper => { wrapper with rawStream := some rawStream }
              let wrapper ← readLocals
              let stream ← transformedStream environment rawStream wrapper.pipeline
              setLocals fun wrapper => { wrapper with transformedStream := some stream }
              return (rawStream, stream)) start := by
        rw [beginReading, Effect.bind_run, ensureAvailable_run, havailable]
        rfl
      rw [hbegin, Effect.bind_run, readStream]
      rcases attempt_cases hcloses start .readStream none none with
        ⟨rawStream, hread⟩ | ⟨error, target, hread, hfinished⟩
      · rw [hread]
        let opened : ReadWorld Stream Pipeline Value Error :=
          { history := world.history ++ [⟨.readStream, .ok rawStream⟩]
            locals := { start.locals with rawStream := some rawStream } }
        show (∃ error target,
            (transformedStream environment rawStream world.locals.pipeline >>= _) opened = _ ∧ _) ∨
          ∃ raw stream target,
            (transformedStream environment rawStream world.locals.pipeline >>= _) opened = _ ∧ _
        rw [Effect.bind_run]
        rcases transformedStream_cases hcloses opened rawStream world.locals.pipeline with
          ⟨stream, target, streams, hrun, hlocals, hdid, hstreams⟩ |
          ⟨error, target, hrun, hlocals, hdid, hclosed⟩
        · right
          rw [hrun]
          refine ⟨rawStream, stream, _, rfl, ?_, rawStream :: streams,
            (Did.append _ _).trans hdid, ?_⟩
          · show { target.locals with transformedStream := some stream } = _
            rw [hlocals]
          · intro owned howned
            rcases List.mem_cons.mp howned with heq | hmem
            · exact .inl heq
            · exact .inr (hstreams owned hmem)
        · left
          rw [hrun]
          refine ⟨error, target, rfl, hlocals, [rawStream], [error],
            (Did.append _ _).trans hdid, ?_, ?_⟩
          · intro owned howned
            rw [List.mem_singleton.mp howned]
            exact hclosed
          · intro other hmem
            rw [List.mem_singleton.mp hmem]
      · left
        rw [hread]
        refine ⟨error, target, rfl, hfinished.locals_eq, [], [error],
          (Did.append _ _).trans hfinished.did, fun _ h => absurd h List.not_mem_nil, ?_⟩
        intro other hmem
        rw [List.mem_singleton.mp hmem]

/-- A consuming call is refused, or nothing is left open behind it. -/
theorem consume_cases (consumer : Consumer) :
    (world.locals.available = false ∧ ∃ message,
      consume environment consumer world = (.error (.consumed message), world)) ∨
    (world.locals.available = true ∧ ∃ result target,
      consume environment consumer world = (result, target) ∧ Consumed world result target) := by
  rw [consume, Effect.bind_run]
  rcases beginReading_cases hcloses world with ⟨havailable, message, hrun⟩ |
    ⟨havailable, ⟨error, target, hrun, hconsumed⟩ | ⟨rawStream, stream, middle, hrun, hbegun⟩⟩
  · rw [hrun]
    exact .inl ⟨havailable, message, rfl⟩
  · rw [hrun]
    right
    obtain ⟨opened, failed, hdid, hclosed, hfailed⟩ := hconsumed.did
    refine ⟨havailable, .error error, target, rfl, hconsumed.locals_eq, opened, failed, hdid,
      hclosed, ?_⟩
    intro other hmem
    rw [Except.error.inj (hfailed other hmem)]
  · rw [hrun]
    refine .inr ⟨havailable, ?_⟩
    show ∃ result target, ((ask environment (.consume consumer stream)).tryExcept
      (abandon environment (some rawStream) (some stream)) >>= fun value => do
        finish environment (some rawStream) (some stream)
        return value) middle = _ ∧ _
    rw [Effect.bind_run]
    obtain ⟨opened, hdid, hopened⟩ := hbegun.did
    have hsettled : ∀ {source target : ReadWorld Stream Pipeline Value Error},
        Finished (some rawStream) (some stream) source target →
        source.locals = middle.locals →
        target.locals =
            { world.locals with
              consumed := true, rawStream := none, transformedStream := none, closed := true } ∧
          ∀ owned ∈ opened, owned ∈ closedStreams target.history := by
      intro source target hfinished hlocals
      constructor
      · rw [hfinished.locals_eq, hlocals, hbegun.locals_eq]
      · intro owned howned
        rcases hopened owned howned with rfl | rfl
        · exact hfinished.closed _ (.inr rfl)
        · exact hfinished.closed _ (.inl rfl)
    rcases attempt_cases hcloses middle (.consume consumer stream) (some rawStream) (some stream)
      with ⟨value, hconsume⟩ | ⟨error, target, hconsume, hfinished⟩
    · rw [hconsume]
      obtain ⟨result, target, hfinish, hfinished, -⟩ := finish_run hcloses
        { middle with history := middle.history ++ [⟨.consume consumer stream, .ok value⟩] }
        (some rawStream) (some stream)
      obtain ⟨hlocals, hclosed⟩ := hsettled hfinished rfl
      have hasked : Did middle.history
          (middle.history ++ [⟨.consume consumer stream, .ok value⟩]) 0 [] [] := Did.append _ _
      refine ⟨result.map fun _ => value, target, ?_, hlocals, opened, [],
        (hdid.quiet hasked).quiet hfinished.did, hclosed, fun _ h => absurd h List.not_mem_nil⟩
      show (finish environment (some rawStream) (some stream) >>= fun _ => pure value) _ = _
      rw [Effect.bind_run, hfinish]
      cases result <;> rfl
    · rw [hconsume]
      obtain ⟨hlocals, hclosed⟩ := hsettled hfinished rfl
      have hasked : Did middle.history
          (middle.history ++ [⟨.consume consumer stream, .error error⟩]) 0 [] [error] :=
        Did.append _ _
      refine ⟨.error error, target, rfl, hlocals, opened, [error],
        (hdid.quiet hasked).quiet hfinished.did, hclosed, ?_⟩
      intro other hmem
      rw [List.mem_singleton.mp hmem]

end Closing

end DataSluice.Application
