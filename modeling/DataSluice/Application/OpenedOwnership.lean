/-
# Ownership of opened streams

Streams that are open belong to an iterator of the wrapper that has started and not ended, and
the fields of the wrapper have them too. So a close, the end of that iterator and a failure
release them, in whatever order the calls come, and other iterators cannot.
-/

import DataSluice.Application.OpenedStreams

namespace DataSluice.Application

open DataSluice.Lib

variable {Stream Pipeline Value Error : Type}

/-! ## Ownership -/

/-- The fields of the open wrapper are the streams of a live iterator. -/
def Held (wrapper : OpenedResource Stream Pipeline) : Prop :=
  wrapper.closed = false ∧ ∃ (index : Nat) (rawStream stream : Stream),
    wrapper.iterators[index]? = some (.running rawStream stream) ∧
      wrapper.rawStream = some rawStream ∧ wrapper.transformedStream = some stream

/-- What holds between two calls. -/
structure Sound (world : ReadWorld Stream Pipeline Value Error) : Prop where
  reads_le : reads world.history ≤ 1
  unread : world.locals.consumed = false →
    reads world.history = 0 ∧ openedStreams world.history = []
  running : ∀ (index : Nat) (rawStream stream : Stream),
    world.locals.iterators[index]? = some (.running rawStream stream) →
      world.locals.consumed = true ∧
        ∀ owned ∈ openedStreams world.history, owned = rawStream ∨ owned = stream
  released : (∀ owned ∈ openedStreams world.history, owned ∈ closedStreams world.history) ∨
    Held world.locals

section Ownership

variable {source target : ReadWorld Stream Pipeline Value Error}

/-- A part of a call that opens nothing and starts no iterator. -/
theorem Sound.of_did (hsound : Sound source) {failed : List (Raised Error)}
    (hdid : Did source.history target.history 0 [] failed)
    (hconsumed : target.locals.consumed = source.locals.consumed)
    (hrunning : ∀ (index : Nat) (rawStream stream : Stream),
      target.locals.iterators[index]? = some (.running rawStream stream) →
        source.locals.iterators[index]? = some (.running rawStream stream))
    (hreleased : (∀ owned ∈ openedStreams source.history, owned ∈ closedStreams target.history) ∨
      Held target.locals) : Sound target := by
  have hopened : openedStreams target.history = openedStreams source.history := by
    rw [hdid.opened_eq, List.append_nil]
  constructor
  · rw [hdid.reads_eq]
    exact hsound.reads_le
  · intro hunconsumed
    rw [hdid.reads_eq, hopened]
    exact hsound.unread (hconsumed ▸ hunconsumed)
  · intro index rawStream stream hindex
    rw [hopened, hconsumed]
    exact hsound.running index rawStream stream (hrunning index rawStream stream hindex)
  · rw [hopened]
    exact hreleased

/-- Nothing that matters for the streams has changed but the history. -/
theorem Sound.quiet (hsound : Sound source) {failed : List (Raised Error)}
    (hdid : Did source.history target.history 0 [] failed)
    (hlocals : target.locals = source.locals) : Sound target := by
  apply hsound.of_did hdid
  · rw [hlocals]
  · rw [hlocals]
    exact fun _ _ _ hindex => hindex
  · rw [hlocals]
    exact hsound.released.imp_left fun hclosed owned howned =>
      hdid.closed_subset owned (hclosed owned howned)

/-- A wrapper that is available opened nothing, and none of its iterators runs. -/
theorem Sound.unopened (hsound : Sound source) (havailable : source.locals.available = true) :
    reads source.history = 0 ∧ openedStreams source.history = [] ∧
      ∀ (index : Nat) (rawStream stream : Stream),
        source.locals.iterators[index]? ≠ some (.running rawStream stream) := by
  have hunconsumed : source.locals.consumed = false := by
    rw [OpenedResource.available] at havailable
    cases h : source.locals.consumed
    · rfl
    · simp [h] at havailable
  obtain ⟨hreads, hopened⟩ := hsound.unread hunconsumed
  refine ⟨hreads, hopened, ?_⟩
  intro index rawStream stream hindex
  have hconsumed := (hsound.running index rawStream stream hindex).1
  rw [hunconsumed] at hconsumed
  cases hconsumed

/-- Behind a consuming call nothing is open. -/
theorem Sound.of_consumed (hsound : Sound source) (havailable : source.locals.available = true)
    {Result : Type} {result : Except (Raised Error) Result}
    (hconsumed : Consumed source result target) : Sound target := by
  obtain ⟨hreads, hopened, hidle⟩ := hsound.unopened havailable
  obtain ⟨opened, failed, hdid, hclosed, -⟩ := hconsumed.did
  constructor
  · exact Nat.le_of_eq (hdid.reads_eq.trans (congrArg (· + 1) hreads))
  · intro hunconsumed
    rw [hconsumed.locals_eq] at hunconsumed
    cases hunconsumed
  · intro index rawStream stream hindex
    rw [hconsumed.locals_eq] at hindex
    exact absurd hindex (hidle index rawStream stream)
  · left
    rw [hdid.opened_eq, hopened]
    exact hclosed

/-- What is open belongs to the iterator that opened it. -/
theorem Sound.of_begun (hsound : Sound source) (havailable : source.locals.available = true)
    {rawStream stream : Stream} {opened : ReadWorld Stream Pipeline Value Error}
    (hbegun : Begun source rawStream stream opened) {index : Nat}
    (hindex : source.locals.iterators[index]? = some .unstarted)
    (htarget : target =
      { opened with
        locals := opened.locals.setIterator index (.running rawStream stream) }) :
    Sound target ∧ target.locals.iterators[index]? = some (.running rawStream stream) := by
  obtain ⟨hreads, hopened, hidle⟩ := hsound.unopened havailable
  obtain ⟨streams, hdid, hstreams⟩ := hbegun.did
  obtain ⟨hbound, -⟩ := List.getElem?_eq_some_iff.mp hindex
  have hunclosed : source.locals.closed = false := by
    rw [OpenedResource.available] at havailable
    cases h : source.locals.closed
    · rfl
    · simp [h] at havailable
  have hlocals : target.locals =
      { source.locals with
        consumed := true, rawStream := some rawStream, transformedStream := some stream
        iterators := source.locals.iterators.set index (.running rawStream stream) } := by
    rw [htarget, OpenedResource.setIterator, hbegun.locals_eq]
  have hhistory : target.history = opened.history := by rw [htarget]
  have hself : target.locals.iterators[index]? = some (.running rawStream stream) := by
    rw [hlocals]
    exact List.getElem?_set_self hbound
  refine ⟨⟨?_, ?_, ?_, ?_⟩, hself⟩
  · rw [hhistory]
    exact Nat.le_of_eq (hdid.reads_eq.trans (congrArg (· + 1) hreads))
  · intro hunconsumed
    rw [hlocals] at hunconsumed
    cases hunconsumed
  · intro other raw transformed hother
    rw [hlocals] at hother ⊢
    rw [hhistory, hdid.opened_eq, hopened]
    refine ⟨rfl, ?_⟩
    by_cases hsame : index = other
    · rw [← hsame] at hother
      rw [List.getElem?_set_self hbound] at hother
      cases hother
      exact hstreams
    · rw [List.getElem?_set_ne hsame] at hother
      exact absurd hother (hidle other raw transformed)
  · right
    refine ⟨?_, index, rawStream, stream, hself, ?_, ?_⟩
    · rw [hlocals]
      exact hunclosed
    · rw [hlocals]
    · rw [hlocals]

/-- Closing the streams that the wrapper or an iterator has releases everything. -/
theorem Sound.of_finished (hsound : Sound source) {rawStream stream : Option Stream}
    {middle finished : ReadWorld Stream Pipeline Value Error} {failed : List (Raised Error)}
    (hfinished : Finished rawStream stream middle finished)
    (hdid : Did source.history middle.history 0 [] failed)
    (hmiddle : middle.locals = source.locals)
    (howned : ∀ owned ∈ openedStreams source.history, owned ∈ closedStreams source.history ∨
      stream = some owned ∨ rawStream = some owned)
    (hhistory : target.history = finished.history)
    (hconsumed : target.locals.consumed = finished.locals.consumed)
    (hrunning : ∀ (index : Nat) (rawStream stream : Stream),
      target.locals.iterators[index]? = some (.running rawStream stream) →
        finished.locals.iterators[index]? = some (.running rawStream stream)) :
    Sound target ∧ Did source.history target.history 0 [] failed := by
  have hlocals := hfinished.locals_eq
  have htotal : Did source.history target.history 0 [] failed := by
    rw [hhistory, ← List.append_nil failed]
    exact hdid.quiet hfinished.did
  refine ⟨hsound.of_did htotal ?_ ?_ (.inl ?_), htotal⟩
  · rw [hconsumed, hlocals, hmiddle]
  · intro index raw transformed hindex
    have hsame := hrunning index raw transformed hindex
    rw [hlocals, hmiddle] at hsame
    exact hsame
  · intro owned hmem
    rcases howned owned hmem with hclosed | hfields
    · exact htotal.closed_subset owned hclosed
    · rw [hhistory]
      exact hfinished.closed owned hfields

end Ownership

/-! ## Calls -/

theorem running_of_setIterator_ended {wrapper : OpenedResource Stream Pipeline}
    {index other : Nat} {rawStream stream : Stream}
    (hrunning : (wrapper.setIterator index .ended).iterators[other]? =
      some (.running rawStream stream)) :
    wrapper.iterators[other]? = some (.running rawStream stream) := by
  rw [OpenedResource.setIterator, List.getElem?_set] at hrunning
  split at hrunning
  · split at hrunning <;> cases hrunning
  · exact hrunning

/-- The end of an iterator that never started leaves the streams with the one that runs. -/
theorem Held.setIterator {wrapper : OpenedResource Stream Pipeline} (hheld : Held wrapper)
    {index : Nat} (hindex : wrapper.iterators[index]? = some .unstarted) :
    Held (wrapper.setIterator index .ended) := by
  obtain ⟨hclosed, other, rawStream, stream, hother, hraw, htransformed⟩ := hheld
  refine ⟨hclosed, other, rawStream, stream, ?_, hraw, htransformed⟩
  have hne : index ≠ other := by
    intro hsame
    rw [hsame, hother] at hindex
    cases hindex
  rw [OpenedResource.setIterator, List.getElem?_set_ne hne]
  exact hother

theorem Sound.end_unstarted {world : ReadWorld Stream Pipeline Value Error} (hsound : Sound world)
    {index : Nat} (hindex : world.locals.iterators[index]? = some .unstarted) :
    Sound { world with locals := world.locals.setIterator index .ended } :=
  hsound.of_did (.refl _) rfl (fun _ _ _ => running_of_setIterator_ended)
    (hsound.released.imp_right fun hheld => hheld.setIterator hindex)

/-- A failure is the result, in the form in which it leaves. -/
def LeavesWith {Result : Type} (leaves : Raised Error → Raised Error)
    (source : ReadWorld Stream Pipeline Value Error) (result : Except (Raised Error) Result)
    (target : ReadWorld Stream Pipeline Value Error) : Prop :=
  ∃ failed, failures target.history = failures source.history ++ failed ∧
    ∀ error ∈ failed, result = .error (leaves error)

/-- A method keeps what holds between two calls, and its failures leave it. -/
def Keeps {Result : Type} (leaves : Raised Error → Raised Error)
    (method : Method Stream Pipeline Value Error Result) : Prop :=
  ∀ world, Sound world →
    Sound (method world).2 ∧ LeavesWith leaves world (method world).1 (method world).2

section Methods

variable {leaves : Raised Error → Raised Error} {First Second : Type}

theorem LeavesWith.of_did {source target : ReadWorld Stream Pipeline Value Error} {count : Nat}
    {opened : List Stream} (hdid : Did source.history target.history count opened [])
    (result : Except (Raised Error) First) : LeavesWith leaves source result target :=
  ⟨[], hdid.failures_eq, fun _ hmem => absurd hmem List.not_mem_nil⟩

theorem LeavesWith.of_failure {source target : ReadWorld Stream Pipeline Value Error} {count : Nat}
    {opened : List Stream} {error : Raised Error}
    (hdid : Did source.history target.history count opened [error]) :
    LeavesWith leaves source (.error (leaves error) : Except (Raised Error) First) target := by
  refine ⟨[error], hdid.failures_eq, ?_⟩
  intro other hmem
  rw [List.mem_singleton.mp hmem]

theorem Keeps.pure (value : First) :
    Keeps leaves (pure value : Method Stream Pipeline Value Error First) :=
  fun _ hsound => ⟨hsound, .of_did (.refl _) _⟩

theorem Keeps.raise (error : Raised Error) :
    Keeps leaves (Effect.raise error : Method Stream Pipeline Value Error First) :=
  fun _ hsound => ⟨hsound, .of_did (.refl _) _⟩

/-- A method that returned had no failure, so those of two methods are those of the second. -/
theorem Keeps.bind {method : Method Stream Pipeline Value Error First}
    {next : First → Method Stream Pipeline Value Error Second} (hmethod : Keeps leaves method)
    (hnext : ∀ value, Keeps leaves (next value)) : Keeps leaves (method >>= next) := by
  intro world hsound
  rw [Effect.bind_run]
  have hfirst := hmethod world hsound
  cases hrun : method world with
  | mk result middle =>
      rw [hrun] at hfirst
      obtain ⟨hmiddle, failed, hfailures, hfailed⟩ := hfirst
      cases result with
      | error error =>
          refine ⟨hmiddle, failed, hfailures, ?_⟩
          intro other hmem
          rw [Except.error.inj (hfailed other hmem)]
      | ok value =>
          obtain ⟨htarget, later, hlater, hlast⟩ := hnext value middle hmiddle
          have hnone : failed = [] := by
            apply List.eq_nil_iff_forall_not_mem.mpr
            intro error hmem
            cases hfailed error hmem
          refine ⟨htarget, later, ?_, hlast⟩
          rw [hlater, hfailures, hnone, List.append_nil]

theorem Keeps.map {method : Method Stream Pipeline Value Error First} (hmethod : Keeps leaves method)
    (f : First → Second) : Keeps leaves (f <$> method) := by
  rw [map_eq_pure_bind]
  exact hmethod.bind fun value => .pure _

theorem keeps_readLocals : Keeps leaves
    (readLocals : Method Stream Pipeline Value Error (OpenedResource Stream Pipeline)) :=
  fun _ hsound => ⟨hsound, .of_did (.refl _) _⟩

/-- A change of the variables that leaves the streams and the running iterators alone. -/
theorem keeps_setLocals {update : OpenedResource Stream Pipeline → OpenedResource Stream Pipeline}
    (hconsumed : ∀ wrapper, (update wrapper).consumed = wrapper.consumed)
    (hrunning : ∀ wrapper (index : Nat) (rawStream stream : Stream),
      (update wrapper).iterators[index]? = some (.running rawStream stream) →
        wrapper.iterators[index]? = some (.running rawStream stream))
    (hheld : ∀ wrapper, Held wrapper → Held (update wrapper)) :
    Keeps leaves (setLocals update : Method Stream Pipeline Value Error Unit) := by
  intro world hsound
  refine ⟨hsound.of_did (.refl _) (hconsumed _) (hrunning _) ?_, .of_did (.refl _) _⟩
  exact hsound.released.imp_right (hheld _)

theorem keeps_ensureAvailable :
    Keeps leaves (ensureAvailable : Method Stream Pipeline Value Error Unit) := by
  intro world hsound
  rw [ensureAvailable_run]
  exact ⟨hsound, .of_did (.refl _) _⟩

theorem keeps_transform (pipeline : Pipeline) :
    Keeps leaves (transform pipeline : Method Stream Pipeline Value Error Unit) := by
  apply keeps_ensureAvailable.bind
  intro _
  exact keeps_setLocals (fun _ => rfl) (fun _ _ _ _ hindex => hindex) fun _ hheld => hheld

theorem keeps_enter : Keeps leaves (enter : Method Stream Pipeline Value Error Unit) := by
  apply keeps_ensureAvailable.bind
  intro _
  exact keeps_setLocals (fun _ => rfl) (fun _ _ _ _ hindex => hindex) fun _ hheld => hheld

theorem keeps_iterBatches : Keeps leaves (iterBatches : Method Stream Pipeline Value Error Nat) := by
  apply keeps_ensureAvailable.bind
  intro _
  apply keeps_readLocals.bind
  intro wrapper
  split
  · refine Keeps.bind (keeps_setLocals (fun _ => rfl) ?_ ?_) fun _ => .pure _
    · intro wrapper index rawStream stream hindex
      rw [List.getElem?_append] at hindex
      split at hindex
      · exact hindex
      · rw [List.getElem?_singleton] at hindex
        split at hindex <;> cases hindex
    · intro wrapper hheld
      obtain ⟨hclosed, index, rawStream, stream, hindex, hfields⟩ := hheld
      refine ⟨hclosed, index, rawStream, stream, ?_, hfields⟩
      obtain ⟨hbound, -⟩ := List.getElem?_eq_some_iff.mp hindex
      rw [List.getElem?_append_left hbound]
      exact hindex
  · exact .raise _

section Environment

variable [DecidableEq Stream]
  {environment : Environment (ReadOp.Answer Value Error : ReadOp Stream Pipeline → Type)}

omit [DecidableEq Stream] in
/-- What a consuming call asks before it opens the resource. -/
theorem keeps_ask {op : ReadOp Stream Pipeline}
    (hreturned : ∀ (history : ReadHistory Stream Pipeline Value Error) value,
      Did history (history ++ [⟨op, .ok value⟩]) 0 [] [])
    (hraised : ∀ (history : ReadHistory Stream Pipeline Value Error) error,
      Did history (history ++ [⟨op, .error error⟩]) 0 [] [error]) :
    Keeps id (ask environment op : Method Stream Pipeline Value Error (op.Reply Value)) := by
  intro world hsound
  rw [ask_run]
  cases environment world.history op with
  | ok value => exact ⟨hsound.quiet (hreturned _ value) rfl, .of_did (hreturned _ value) _⟩
  | error error => exact ⟨hsound.quiet (hraised _ error) rfl, .of_failure (hraised _ error)⟩

variable (hcloses : ClosesRaiseExceptions environment)

include hcloses

theorem keeps_consume (consumer : Consumer) : Keeps id (consume environment consumer) := by
  intro world hsound
  rcases consume_cases hcloses world consumer with
    ⟨-, message, hrun⟩ | ⟨havailable, result, target, hrun, hconsumed⟩
  · rw [hrun]
    exact ⟨hsound, .of_did (.refl _) _⟩
  · rw [hrun]
    obtain ⟨opened, failed, hdid, -, hfailed⟩ := hconsumed.did
    exact ⟨hsound.of_consumed havailable hconsumed, failed, hdid.failures_eq, hfailed⟩

theorem keeps_convert (integration : Integration) : Keeps id (convert environment integration) := by
  apply Keeps.bind (keeps_ask (fun _ _ => Did.append _ _) fun _ _ => Did.append _ _)
  intro _
  exact keeps_consume hcloses _

theorem keeps_materialize (destinationUri mode : String) :
    Keeps id (materialize environment destinationUri mode) := by
  apply keeps_readLocals.bind
  intro wrapper
  split
  · apply Keeps.bind (.pure _)
    intro transforms
    exact keeps_consume hcloses _
  · apply Keeps.bind (keeps_ask (fun _ _ => Did.append _ _) fun _ _ => Did.append _ _)
    intro transforms
    exact keeps_consume hcloses _

omit hcloses [DecidableEq Stream] in
/-- An iterator ends, and the streams that it has are closed. -/
theorem Sound.of_ended {source middle finished : ReadWorld Stream Pipeline Value Error}
    (hsound : Sound source) {rawStream stream : Option Stream} {failed : List (Raised Error)}
    (hfinished : Finished rawStream stream middle finished)
    (hdid : Did source.history middle.history 0 [] failed)
    (hmiddle : middle.locals = source.locals)
    (howned : ∀ owned ∈ openedStreams source.history, owned ∈ closedStreams source.history ∨
      stream = some owned ∨ rawStream = some owned) (index : Nat) :
    Sound { finished with locals := finished.locals.setIterator index .ended } ∧
      Did source.history finished.history 0 [] failed :=
  hsound.of_finished hfinished hdid hmiddle howned rfl rfl
    fun _ _ _ hother => running_of_setIterator_ended hother

omit hcloses in
/-- `close` does nothing for a closed wrapper, and else closes what the fields have. -/
theorem close_eq (world : ReadWorld Stream Pipeline Value Error) :
    close environment world =
      if world.locals.closed then (.ok (), world)
      else finish environment world.locals.rawStream world.locals.transformedStream world := by
  rw [close, Effect.bind_run]
  show (if world.locals.closed then _ else _ : Method _ _ _ _ _) world = _
  split <;> rfl

theorem keeps_close : Keeps leaves (close environment) := by
  intro world hsound
  rw [close_eq]
  split
  · exact ⟨hsound, .of_did (.refl _) _⟩
  · next hunclosed =>
      obtain ⟨result, target, hrun, hfinished, -⟩ :=
        finish_run hcloses world world.locals.rawStream world.locals.transformedStream
      rw [hrun]
      have howned : ∀ owned ∈ openedStreams world.history,
          owned ∈ closedStreams world.history ∨ world.locals.transformedStream = some owned ∨
            world.locals.rawStream = some owned := by
        intro owned hmem
        rcases hsound.released with hclosed | ⟨-, index, rawStream, stream, hindex, hraw, htransformed⟩
        · exact .inl (hclosed owned hmem)
        · rcases (hsound.running index rawStream stream hindex).2 owned hmem with rfl | rfl
          · exact .inr (.inr hraw)
          · exact .inr (.inl htransformed)
      obtain ⟨hkept, hdid⟩ := hsound.of_finished hfinished (.refl _) rfl howned rfl rfl
        fun _ _ _ hindex => hindex
      exact ⟨hkept, .of_did hdid _⟩

theorem closed_close (world : ReadWorld Stream Pipeline Value Error) :
    (close environment world).2.locals.closed = true := by
  rw [close_eq]
  split
  · assumption
  · obtain ⟨result, target, hrun, hfinished, -⟩ :=
      finish_run hcloses world world.locals.rawStream world.locals.transformedStream
    rw [hrun]
    show target.locals.closed = true
    rw [hfinished.locals_eq]

omit hcloses in
/-- `__exit__` ends as `close` does. -/
theorem exit_eq (world : ReadWorld Stream Pipeline Value Error) :
    exit environment world = ((close environment world).1,
      { (close environment world).2 with
        locals := { (close environment world).2.locals with manualIteration := false } }) := rfl

theorem keeps_exit : Keeps leaves (exit environment) := by
  intro world hsound
  obtain ⟨hkept, hleaves⟩ := (keeps_close hcloses : Keeps leaves _) world hsound
  rw [exit_eq]
  refine ⟨hkept.of_did (.refl _) rfl (fun _ _ _ hindex => hindex) ?_, hleaves⟩
  exact hkept.released.imp_right fun hheld => hheld

omit hcloses [DecidableEq Stream] in
/-- The streams of a running iterator are everything that is open. -/
theorem Sound.owned_of_running {world : ReadWorld Stream Pipeline Value Error}
    (hsound : Sound world) {index : Nat} {rawStream stream : Stream}
    (hindex : world.locals.iterators[index]? = some (.running rawStream stream)) :
    ∀ owned ∈ openedStreams world.history, owned ∈ closedStreams world.history ∨
      some stream = some owned ∨ some rawStream = some owned := by
  intro owned hmem
  rcases (hsound.running index rawStream stream hindex).2 owned hmem with rfl | rfl
  · exact .inr (.inr rfl)
  · exact .inr (.inl rfl)

/-- A step of a running iterator. -/
theorem sound_resumeBatches {world : ReadWorld Stream Pipeline Value Error} (hsound : Sound world)
    {index : Nat} {rawStream stream : Stream}
    (hindex : world.locals.iterators[index]? = some (.running rawStream stream)) :
    let run := (resumeBatches environment index rawStream stream).tryExcept (leaveGenerator index)
      world
    Sound run.2 ∧ LeavesWith Raised.outOfGenerator world run.1 run.2 := by
  intro run
  have howned := hsound.owned_of_running hindex
  rcases attempt_cases hcloses world (.nextBatch index stream) (some rawStream) (some stream) with
    ⟨batch, hask⟩ | ⟨error, target, hask, hfinished⟩
  · have hdid : Did world.history (world.history ++ [⟨.nextBatch index stream, .ok batch⟩]) 0 [] [] :=
      Did.append _ _
    cases batch with
    | some batch =>
        have hrun : run = (.ok (some batch),
            { world with history := world.history ++ [⟨.nextBatch index stream, .ok (some batch)⟩] }) := by
          show (resumeBatches environment index rawStream stream).tryExcept _ world = _
          rw [Effect.tryExcept_run, resumeBatches, Effect.bind_run, hask]
          rfl
        rw [hrun]
        exact ⟨hsound.quiet hdid rfl, .of_did hdid _⟩
    | none =>
        obtain ⟨result, target, hfinish, hfinished, -⟩ := finish_run hcloses
          { world with history := world.history ++ [⟨.nextBatch index stream, .ok none⟩] }
          (some rawStream) (some stream)
        have hrun : ∃ ending, run = (ending,
            { target with locals := target.locals.setIterator index .ended }) := by
          have hexhaust : run = (exhaust environment index rawStream stream).tryExcept
              (leaveGenerator index)
              { world with
                history := world.history ++ [⟨.nextBatch index stream, .ok none⟩] } := by
            show (resumeBatches environment index rawStream stream).tryExcept _ world = _
            rw [Effect.tryExcept_run, resumeBatches, Effect.bind_run, hask]
            rfl
          rw [hexhaust, Effect.tryExcept_run, exhaust, Effect.bind_run, hfinish]
          cases result with
          | ok done => exact ⟨_, rfl⟩
          | error error => exact ⟨_, rfl⟩
        obtain ⟨ending, hrun⟩ := hrun
        rw [hrun]
        obtain ⟨hkept, htotal⟩ := hsound.of_ended hfinished hdid rfl howned index
        exact ⟨hkept, .of_did htotal _⟩
  · have hdid : Did world.history (world.history ++ [⟨.nextBatch index stream, .error error⟩]) 0 []
        [error] := Did.append _ _
    have hrun : run = (.error error.outOfGenerator,
        { target with locals := target.locals.setIterator index .ended }) := by
      show (resumeBatches environment index rawStream stream).tryExcept _ world = _
      rw [Effect.tryExcept_run, resumeBatches, Effect.bind_run, hask]
      rfl
    rw [hrun]
    obtain ⟨hkept, htotal⟩ := hsound.of_ended hfinished hdid rfl howned index
    exact ⟨hkept, .of_failure htotal⟩

/-- The first step of an iterator opens the resource, or the iterator ends with it. -/
theorem sound_startBatches {world : ReadWorld Stream Pipeline Value Error} (hsound : Sound world)
    {index : Nat} (hindex : world.locals.iterators[index]? = some .unstarted) :
    let run := startBatches environment index world
    Sound run.2 ∧ LeavesWith Raised.outOfGenerator world run.1 run.2 := by
  intro run
  have hrun : run = startBatches environment index world := rfl
  rw [startBatches, Effect.bind_run, Effect.tryExcept_run] at hrun
  rcases beginReading_cases hcloses world with ⟨-, message, hbegin⟩ |
    ⟨havailable, ⟨error, target, hbegin, hconsumed⟩ |
      ⟨rawStream, stream, opened, hbegin, hbegun⟩⟩
  · rw [hbegin] at hrun
    rw [hrun]
    exact ⟨hsound.end_unstarted hindex, .of_did (.refl _) _⟩
  · rw [hbegin] at hrun
    rw [hrun]
    have hkept := hsound.of_consumed havailable hconsumed
    have hsame : target.locals.iterators[index]? = some .unstarted := by
      rw [hconsumed.locals_eq]
      exact hindex
    obtain ⟨streams, failed, hdid, -, hfailed⟩ := hconsumed.did
    refine ⟨hkept.end_unstarted hsame, failed, hdid.failures_eq, ?_⟩
    intro other hmem
    rw [← Except.error.inj (hfailed other hmem)]
    rfl
  · rw [hbegin] at hrun
    rw [hrun]
    obtain ⟨hkept, hself⟩ := hsound.of_begun havailable hbegun hindex rfl
    obtain ⟨streams, hdid, -⟩ := hbegun.did
    obtain ⟨hlast, failed, hfailures, hfailed⟩ := sound_resumeBatches hcloses hkept hself
    refine ⟨hlast, failed, ?_, hfailed⟩
    rw [← List.append_nil (failures world.history), ← hdid.failures_eq]
    exact hfailures

theorem keeps_nextBatch (index : Nat) :
    Keeps Raised.outOfGenerator (nextBatch environment index) := by
  intro world hsound
  have hnext : nextBatch environment index world =
      stepGenerator environment index (world.locals.iterators.getD index .ended) world := rfl
  rw [hnext, List.getD_eq_getElem?_getD]
  cases hindex : world.locals.iterators[index]? with
  | none => exact ⟨hsound, .of_did (.refl _) _⟩
  | some iteration =>
      cases iteration with
      | ended => exact ⟨hsound, .of_did (.refl _) _⟩
      | running rawStream stream => exact sound_resumeBatches hcloses hsound hindex
      | unstarted => exact sound_startBatches hcloses hsound hindex

omit hcloses [DecidableEq Stream] in
theorem raisedByClose_run (world : ReadWorld Stream Pipeline Value Error) (index : Nat)
    (stream : Stream) :
    ∃ raised answer, raisedByClose environment index stream world = (.ok raised,
      { world with history := world.history ++ [⟨.closeBatches index stream, answer⟩] }) := by
  rw [raisedByClose, Effect.tryExcept_run, Effect.bind_run, ask_run]
  cases environment world.history (.closeBatches index stream) with
  | ok done => exact ⟨_, _, rfl⟩
  | error error => exact ⟨_, _, rfl⟩

/-- Whatever the batches raise when they are closed, the streams are closed behind it. -/
theorem sound_stopBatches {world : ReadWorld Stream Pipeline Value Error} (hsound : Sound world)
    {index : Nat} {rawStream stream : Stream}
    (hindex : world.locals.iterators[index]? = some (.running rawStream stream)) :
    let run := stopBatches environment index rawStream stream world
    Sound run.2 ∧ LeavesWith leaves world run.1 run.2 := by
  intro run
  obtain ⟨raised, answer, hask⟩ : ∃ raised answer,
      raisedByClose environment index stream world = (.ok raised, _) :=
    raisedByClose_run world index stream
  obtain ⟨target, hfinish, hfinished⟩ := finishAfterFailure_run hcloses
    { world with history := world.history ++ [⟨.closeBatches index stream, answer⟩] }
    (some rawStream) (some stream)
  have hrun : ∃ ending, run = (ending,
      { target with locals := target.locals.setIterator index .ended }) := by
    show ∃ ending, stopBatches environment index rawStream stream world = _
    rw [stopBatches, Effect.bind_run, hask]
    show ∃ ending, (finishAfterFailure environment _ _ >>= _) _ = _
    rw [Effect.bind_run, hfinish]
    cases raised <;> exact ⟨_, rfl⟩
  obtain ⟨ending, hrun⟩ := hrun
  rw [hrun]
  have hasked : Did world.history
      (world.history ++ [⟨.closeBatches index stream, answer⟩]) 0 [] [] := Did.append _ _
  obtain ⟨hkept, htotal⟩ :=
    hsound.of_ended hfinished hasked rfl (hsound.owned_of_running hindex) index
  exact ⟨hkept, .of_did htotal _⟩

theorem keeps_closeIterator (index : Nat) : Keeps leaves (closeIterator environment index) := by
  intro world hsound
  have hclose : closeIterator environment index world =
      closeGenerator environment index (world.locals.iterators.getD index .ended) world := rfl
  rw [hclose, List.getD_eq_getElem?_getD]
  cases hindex : world.locals.iterators[index]? with
  | none => exact ⟨hsound, .of_did (.refl _) _⟩
  | some iteration =>
      cases iteration with
      | ended => exact ⟨hsound, .of_did (.refl _) _⟩
      | unstarted => exact ⟨hsound.end_unstarted hindex, .of_did (.refl _) _⟩
      | running rawStream stream => exact sound_stopBatches hcloses hsound hindex

end Environment

end Methods

/-! ## Runs -/

/-- A failure leaves an iterator as an exception leaves a generator, and any other call as it
is. -/
def Call.leaves : Call Pipeline → Raised Error → Raised Error
  | .nextBatch _ => Raised.outOfGenerator
  | _ => id

/-- The call closes the wrapper. -/
def Call.closes : Call Pipeline → Bool
  | .close | .exit => true
  | _ => false

/-- The call consumes the resource. -/
def Call.consumes : Call Pipeline → Bool
  | .convert _ | .materialize _ _ => true
  | _ => false

/-- Every opened stream was closed, unless the wrapper is open and a live iterator has the
stream. -/
def Released (world : ReadWorld Stream Pipeline Value Error) : Prop :=
  ∀ owned ∈ openedStreams world.history, owned ∈ closedStreams world.history ∨
    (world.locals.isOpen = true ∧ ∃ (index : Nat) (rawStream stream : Stream),
      world.locals.iterators[index]? = some (.running rawStream stream) ∧
        (owned = rawStream ∨ owned = stream))

/-- The end of a `with` block that raised: `__exit__`, and then the exception again. -/
def leaveBlock [DecidableEq Stream]
    (environment : Environment (ReadOp.Answer Value Error : ReadOp Stream Pipeline → Type))
    (error : Raised Error) : Method Stream Pipeline Value Error Unit := do
  exit environment
  Effect.raise error

section Runs

variable [DecidableEq Stream]
  {environment : Environment (ReadOp.Answer Value Error : ReadOp Stream Pipeline → Type)}
  {world : ReadWorld Stream Pipeline Value Error}

omit [DecidableEq Stream] in
theorem Sound.released_of (hsound : Sound world) : Released world := by
  intro owned hmem
  rcases hsound.released with hclosed | ⟨hunclosed, index, rawStream, stream, hindex, hraw, -⟩
  · exact .inl (hclosed owned hmem)
  · right
    constructor
    · rw [OpenedResource.isOpen, hraw, hunclosed]
      rfl
    · exact ⟨index, rawStream, stream, hindex,
        (hsound.running index rawStream stream hindex).2 owned hmem⟩

omit [DecidableEq Stream] in
/-- Behind a close nothing is open. -/
theorem Sound.closed_of (hsound : Sound world) (hclosed : world.locals.closed = true) :
    ∀ owned ∈ openedStreams world.history, owned ∈ closedStreams world.history := by
  rcases hsound.released with hreleased | ⟨hunclosed, -⟩
  · exact hreleased
  · rw [hclosed] at hunclosed
    cases hunclosed

theorem keeps_runCall (hcloses : ClosesRaiseExceptions environment) (call : Call Pipeline) :
    Keeps call.leaves (runCall environment call) := by
  cases call with
  | transform pipeline => exact (keeps_transform pipeline).bind fun _ => .pure _
  | enter => exact keeps_enter.bind fun _ => .pure _
  | exit => exact (keeps_exit hcloses).bind fun _ => .pure _
  | iterBatches => exact keeps_iterBatches.map _
  | nextBatch index => exact (keeps_nextBatch hcloses index).map _
  | closeIterator index => exact (keeps_closeIterator hcloses index).bind fun _ => .pure _
  | convert integration => exact (keeps_convert hcloses integration).map _
  | materialize destinationUri mode => exact (keeps_materialize hcloses destinationUri mode).map _
  | close => exact (keeps_close hcloses).bind fun _ => .pure _

theorem sound_of_reachable (hcloses : ClosesRaiseExceptions environment)
    (hreach : (wrapperSystem environment).Reachable world) : Sound world := by
  apply hreach.invariant
  · intro start ⟨hhistory, hlocals⟩
    constructor
    · rw [hhistory]
      exact Nat.zero_le 1
    · intro _
      rw [hhistory]
      exact ⟨rfl, rfl⟩
    · intro index rawStream stream hindex
      rw [hlocals] at hindex
      cases hindex
    · left
      rw [hhistory]
      exact fun _ hmem => absurd hmem List.not_mem_nil
  · intro source call target hsound _ htaken
    cases htaken
    exact (keeps_runCall hcloses call source hsound).1

theorem closed_runCall (hcloses : ClosesRaiseExceptions environment) {call : Call Pipeline}
    (hcall : call.closes = true) : (runCall environment call world).2.locals.closed = true := by
  have hclosed := closed_close hcloses world
  cases call with
  | close =>
      show ((close environment >>= _) world).2.locals.closed = true
      rw [Effect.bind_run]
      cases hrun : close environment world with
      | mk result target =>
          rw [hrun] at hclosed
          cases result <;> exact hclosed
  | exit =>
      show ((exit environment >>= _) world).2.locals.closed = true
      rw [Effect.bind_run, exit_eq]
      cases hrun : close environment world with
      | mk result target =>
          rw [hrun] at hclosed
          cases result <;> exact hclosed
  | _ => cases hcall

/-- The exception of a `with` block is lost exactly when closing the wrapper raises another
one. -/
theorem leaveBlock_eq_iff (error : Raised Error) :
    (leaveBlock environment error world).1 = .error error ↔
      ∀ other, (close environment world).1 = .error other → other = error := by
  rw [leaveBlock, Effect.bind_run, exit_eq]
  cases (close environment world).1 with
  | ok done =>
      constructor
      · intro _ other hother
        cases hother
      · intro _
        rfl
  | error raised =>
      constructor
      · intro hraised other hother
        rw [← Except.error.inj hraised, ← Except.error.inj hother]
      · intro hsame
        rw [hsame raised rfl]

/-- In every run the resource is opened at most once. A stream that is not closed belongs to a
live iterator of the open wrapper, so that nothing is open behind `close`. A failure of the
reader, the pipeline or a consumer is what the call raises. -/
theorem opened_resource_released (hcloses : ClosesRaiseExceptions environment)
    (hreach : (wrapperSystem environment).Reachable world) :
    reads world.history ≤ 1 ∧ Released world ∧
      ∀ call, LeavesWith call.leaves world (runCall environment call world).1
          (runCall environment call world).2 ∧
        (call.closes = true → ∀ owned ∈ openedStreams (runCall environment call world).2.history,
          owned ∈ closedStreams (runCall environment call world).2.history) := by
  have hsound := sound_of_reachable hcloses hreach
  refine ⟨hsound.reads_le, hsound.released_of, ?_⟩
  intro call
  obtain ⟨hkept, hleaves⟩ := keeps_runCall hcloses call world hsound
  constructor
  · exact hleaves
  · intro hcall
    exact hkept.closed_of (closed_runCall hcloses hcall)

end Runs

/-- A reader whose stream `0` never ends and closes. -/
def endless : Environment (ReadOp.Answer Nat Unit : ReadOp Nat Unit → Type) := fun _ op =>
  match op with
  | .readStream => .ok 0
  | .runTransformPipeline stream _ => .ok (stream + 1)
  | .importIntegration _ | .closeBatches _ _ | .close _ => .ok ()
  | .stepNames _ => .ok []
  | .consume _ stream => .ok stream
  | .nextBatch _ stream => .ok (some stream)

theorem closesRaiseExceptions_endless : ClosesRaiseExceptions endless := by
  intro history stream error herror
  cases herror

/-- The world in which an iterator has read a first batch. -/
def iterating : ReadWorld Nat Unit Nat Unit where
  history :=
    [⟨.readStream, .ok 0⟩, ⟨.nextBatch 0 0, .ok (some 0)⟩]
  locals :=
    { rawStream := some 0, transformedStream := some 0, consumed := true,
      manualIteration := true, iterators := [.running 0 0] }

theorem reachable_iterating : (wrapperSystem endless).Reachable iterating :=
  System.Reachable.of_run [.enter, .iterBatches, .nextBatch 0]
    (System.ReachableUnder.start ⟨rfl, rfl⟩ : (wrapperSystem endless).Reachable ⟨[], {}⟩) rfl

theorem opened_resource_released_iterating :
    reads iterating.history ≤ 1 ∧ Released iterating ∧
      ∀ call, LeavesWith call.leaves iterating (runCall endless call iterating).1
          (runCall endless call iterating).2 ∧
        (call.closes = true → ∀ owned ∈ openedStreams (runCall endless call iterating).2.history,
          owned ∈ closedStreams (runCall endless call iterating).2.history) :=
  opened_resource_released closesRaiseExceptions_endless reachable_iterating

/-- A consuming call is refused while an iterator reads, and it closes nothing then. -/
theorem refused_consumer_closes_nothing :
    ¬ ∀ environment : Environment (ReadOp.Answer Nat Unit : ReadOp Nat Unit → Type),
      ClosesRaiseExceptions environment → ∀ world, (wrapperSystem environment).Reachable world →
        ∀ call, call.consumes = true →
          ∀ owned ∈ openedStreams (runCall environment call world).2.history,
            owned ∈ closedStreams (runCall environment call world).2.history := by
  intro hclaim
  have hclosed := hclaim endless closesRaiseExceptions_endless iterating reachable_iterating
    (.convert .arrow) rfl 0 List.mem_cons_self
  cases hclosed

end DataSluice.Application
