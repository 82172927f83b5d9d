/-
# A streamed export is settled once

Whatever the chunks are, and wherever an exception is raised, a call of `digest_stream_document`
with a limit ends with one event, closes the response once, and tells the breakers of a success
exactly when it returns a document. The document is that of all chunks.

The proof follows the state of a call: what its events say so far, and which of the two responses
are closed. Every method moves between few such states (`Stands`), and what the loop has digested is
known beside them (`Reading`).
-/

import DataSluice.Catalog.UdataStream

namespace DataSluice.Catalog.UdataStream

open DataSluice.Lib DataSluice.Lib.Url DataSluice.Domain DataSluice.Runtime

/-! ## What a history shows -/

section Histories

variable {version : Version}

/-- The outcome of an event that ends a call. -/
def outcomeOf : Happening (StreamOp.Answer version) → Option Outcome
  | ⟨.emit (.outcome outcome), _⟩ => some outcome
  | _ => none

/-- The chunk that a sink is given. -/
def sunkChunk : Happening (StreamOp.Answer version) → Option (List UInt8)
  | ⟨.sink chunk, _⟩ => some chunk
  | _ => none

def isRecordedSuccess : Happening (StreamOp.Answer version) → Bool
  | ⟨.recordSuccess, _⟩ => true
  | _ => false

def isClose : Happening (StreamOp.Answer version) → Bool
  | ⟨.closeResponse, _⟩ => true
  | _ => false

variable (history : StreamHistory version)

def outcomes : List Outcome := history.filterMap outcomeOf

def sunk : List (List UInt8) := history.filterMap sunkChunk

def recordedSuccesses : Nat := history.countP isRecordedSuccess

def closes : Nat := history.countP isClose

/-- What a settlement does once the time was checked. -/
def isSettling : Happening (StreamOp.Answer version) → Bool
  | ⟨.inspect, _⟩ | ⟨.recordSuccess, _⟩ | ⟨.emit _, _⟩ => true
  | _ => false

/-- Nothing of it shows in the tallies. -/
structure Quiet : Prop where
  outcomes : outcomes history = []
  recordedSuccesses : recordedSuccesses history = 0
  closes : closes history = 0
  sunk : sunk history = []

end Histories

/-! ## The property -/

/-- Only a settlement follows the last reading of the clock, and that was in time. -/
def SettledInTime (call : Export) (history : StreamHistory call.version) : Prop :=
  ∃ front now back, history = front ++ ⟨.readClock, .ok now⟩ :: back ∧
    0 < call.deadline.left now ∧ back.all isSettling = true

/-- The document of a call that was read to its end, with all chunks of its source. -/
structure Export.Describes (call : Export) (history : StreamHistory call.version)
    (document : SiteDocument) (chunks : List (List UInt8)) : Prop where
  consumed : call.source = .ofList (chunks.map .bytes)
  bounded : (chunks.flatten.length : Int) ≤ call.maxBytes
  decoded : ∃ text : List Char, text.flatMap String.utf8EncodeChar = chunks.flatten
  sizeBytes : document.sizeBytes = chunks.flatten.length
  sha256 : document.sha256 = call.sha256 chunks.flatten
  sunk : sunk history = if call.hasSink then chunks.filter (· ≠ []) else []
  inTime : SettledInTime call history

/-- A call that was settled once. -/
structure Export.SettledOnce (call : Export)
    (run : Except Raised SiteDocument × StreamWorld call.version) : Prop where
  outcome : ∃ outcome, outcomes run.2.history = [outcome] ∧
    (outcome = .succeeded ↔ ∃ document, run.1 = .ok document)
  recorded : (∃ document, run.1 = .ok document) → recordedSuccesses run.2.history = 1
  unrecorded : (¬∃ document, run.1 = .ok document) → recordedSuccesses run.2.history = 0
  closed : closes run.2.history = 1
  describes : ∀ document, run.1 = .ok document →
    ∃ chunks, call.Describes run.2.history document chunks

/-! ## States of a call -/

/-- What the events of a call say so far. -/
inductive Settlement
  | pending
  | failed
  | succeeded
  deriving DecidableEq

section States

variable {version : Version}

/-- What each of them is, by the events, the records of a success and the flag. -/
def Settlement.Shows : Settlement → List Outcome → Nat → Bool → Prop
  | .pending, outcomes, recorded, settled => outcomes = [] ∧ recorded = 0 ∧ settled = false
  | .failed, outcomes, recorded, settled =>
      (∃ outcome, outcomes = [outcome] ∧ outcome ≠ .succeeded) ∧ recorded = 0 ∧ settled = true
  | .succeeded, outcomes, recorded, settled =>
      outcomes = [.succeeded] ∧ recorded = 1 ∧ settled = true

/-- Where a call stands: its settlement, which responses are closed, and what the sink was given. -/
structure Stands (settlement : Settlement) (closed wrapped : Bool) (taken : List (List UInt8))
    (world : StreamWorld version) : Prop where
  shows : settlement.Shows (outcomes world.history) (recordedSuccesses world.history)
    world.locals.settled
  closes : closes world.history = if closed then 1 else 0
  responseClosed : world.locals.responseClosed = closed
  wrapperClosed : world.locals.wrapperClosed = wrapped
  sunk : sunk world.history = taken

/-- A call that failed. -/
def Failed (closed wrapped : Bool) (world : StreamWorld version) : Prop :=
  ∃ taken, Stands .failed closed wrapped taken world

/-- A call that did not succeed, and may have failed. -/
def Unsuccessful (closed wrapped : Bool) (world : StreamWorld version) : Prop :=
  ∃ settlement taken, settlement ≠ .succeeded ∧ Stands settlement closed wrapped taken world

/-- The chunks of a call were consumed. -/
def Consumed (world : StreamWorld version) : Prop :=
  world.locals.consumed = true ∧ world.locals.chunks = .finished

variable {settlement : Settlement} {closed wrapped : Bool} {taken : List (List UInt8)}
  {world : StreamWorld version}

theorem Failed.unsuccessful (h : Failed closed wrapped world) : Unsuccessful closed wrapped world := by
  obtain ⟨taken, hstands⟩ := h
  exact ⟨.failed, taken, nofun, hstands⟩

theorem Stands.unsuccessful (h : Stands .pending closed wrapped taken world) :
    Unsuccessful closed wrapped world := ⟨.pending, taken, nofun, h⟩

theorem outcomes_append (history other : StreamHistory version) :
    outcomes (history ++ other) = outcomes history ++ outcomes other := List.filterMap_append

theorem sunk_append (history other : StreamHistory version) :
    sunk (history ++ other) = sunk history ++ sunk other := List.filterMap_append

theorem recordedSuccesses_append (history other : StreamHistory version) :
    recordedSuccesses (history ++ other) = recordedSuccesses history + recordedSuccesses other :=
  List.countP_append

theorem closes_append (history other : StreamHistory version) :
    closes (history ++ other) = closes history + closes other := List.countP_append

/-- What is quiet, and leaves the flags alone, leaves a call where it stands. -/
theorem Stands.quiet (h : Stands settlement closed wrapped taken world)
    {events : StreamHistory version} (hevents : Quiet events) {guard : Guard}
    (hsettled : guard.settled = world.locals.settled)
    (hresponse : guard.responseClosed = world.locals.responseClosed)
    (hwrapper : guard.wrapperClosed = world.locals.wrapperClosed) :
    Stands settlement closed wrapped taken ⟨world.history ++ events, guard⟩ where
  shows := by
    rw [outcomes_append, recordedSuccesses_append, hevents.outcomes, hevents.recordedSuccesses,
      List.append_nil, Nat.add_zero, hsettled]
    exact h.shows
  closes := by
    rw [closes_append, hevents.closes, Nat.add_zero]
    exact h.closes
  responseClosed := hresponse.trans h.responseClosed
  wrapperClosed := hwrapper.trans h.wrapperClosed
  sunk := by
    rw [sunk_append, hevents.sunk, List.append_nil]
    exact h.sunk

/-- The same for the flags alone. -/
theorem Stands.flags (h : Stands settlement closed wrapped taken world) {guard : Guard}
    (hsettled : guard.settled = world.locals.settled)
    (hresponse : guard.responseClosed = world.locals.responseClosed)
    (hwrapper : guard.wrapperClosed = world.locals.wrapperClosed) :
    Stands settlement closed wrapped taken { world with locals := guard } :=
  ⟨hsettled ▸ h.shows, h.closes, hresponse.trans h.responseClosed,
    hwrapper.trans h.wrapperClosed, h.sunk⟩

theorem Unsuccessful.flags (h : Unsuccessful closed wrapped world) {guard : Guard}
    (hsettled : guard.settled = world.locals.settled)
    (hresponse : guard.responseClosed = world.locals.responseClosed)
    (hwrapper : guard.wrapperClosed = world.locals.wrapperClosed) :
    Unsuccessful closed wrapped { world with locals := guard } := by
  obtain ⟨settlement, taken, hne, hstands⟩ := h
  exact ⟨settlement, taken, hne, hstands.flags hsettled hresponse hwrapper⟩

end States

/-! ## Settling -/

section Quiet

variable {version : Version}

theorem Quiet.nil : Quiet ([] : StreamHistory version) := ⟨rfl, rfl, rfl, rfl⟩

theorem Quiet.append {history other : StreamHistory version} (h : Quiet history)
    (hother : Quiet other) : Quiet (history ++ other) where
  outcomes := by rw [outcomes_append, h.outcomes, hother.outcomes, List.append_nil]
  recordedSuccesses := by
    rw [recordedSuccesses_append, h.recordedSuccesses, hother.recordedSuccesses]
  closes := by rw [closes_append, h.closes, hother.closes]
  sunk := by rw [sunk_append, h.sunk, hother.sunk, List.append_nil]

end Quiet

section Settling

theorem exists_perform_run {version : Version} {Error : Type}
    (environment : StreamEnvironment version) (op : StreamOp) (world : StreamWorld version) :
    ∃ answer, (perform environment op : Effect (StreamWorld version) Error _) world =
      (.ok answer, { world with history := world.history ++ [⟨op, answer⟩] }) := ⟨_, rfl⟩

variable (call : Export) (environment : StreamEnvironment call.version)

theorem emitBreakerChange_run (before after : Bool) (world : StreamWorld call.version) :
    ∃ events, Quiet events ∧ events.all isSettling = true ∧
      emitBreakerChange call environment before after world =
        (.ok (), { world with history := world.history ++ events }) := by
  unfold emitBreakerChange
  split
  · exact ⟨[⟨.emit (.breakerStateChange after), _⟩], ⟨rfl, rfl, rfl, rfl⟩, rfl, rfl⟩
  · exact ⟨[], .nil, rfl, by rw [List.append_nil]; rfl⟩

theorem recordFailure_run (error : Raised) (world : StreamWorld call.version) :
    ∃ events, Quiet events ∧ recordFailure call environment error world =
      (.ok (), { world with history := world.history ++ events }) := by
  unfold recordFailure
  split
  · obtain ⟨before, hbefore⟩ := exists_perform_run environment .inspect world
    rw [Effect.bind_run, hbefore]
    simp only
    obtain ⟨after, hafter⟩ := exists_perform_run environment .recordTransportFailure
      { world with history := world.history ++ [⟨.inspect, before⟩] }
    rw [Effect.bind_run, hafter]
    simp only
    obtain ⟨events, hquiet, -, hrun⟩ := emitBreakerChange_run call environment before.isOpen
      after.isOpen ⟨world.history ++ [⟨.inspect, before⟩] ++ [⟨.recordTransportFailure, after⟩],
        world.locals⟩
    rw [hrun]
    refine ⟨[⟨.inspect, before⟩] ++ [⟨.recordTransportFailure, after⟩] ++ events, ?_, ?_⟩
    · exact .append ⟨rfl, rfl, rfl, rfl⟩ hquiet
    · simp only [List.append_assoc]
  · exact ⟨[], .nil, by rw [List.append_nil]; rfl⟩

theorem failureOutcome_run (error : Raised) (world : StreamWorld call.version) :
    ∃ outcome events, outcome ≠ .succeeded ∧ Quiet events ∧
      failureOutcome call environment error world =
        (.ok outcome, { world with history := world.history ++ events }) := by
  unfold failureOutcome
  split
  · obtain ⟨now, hnow⟩ := exists_perform_run environment .readUsage world
    rw [Effect.bind_run, hnow]
    exact ⟨.budgetExhausted (max 0 (call.deadline.budget.total - call.deadline.left now)),
      [⟨.readUsage, now⟩], nofun, ⟨rfl, rfl, rfl, rfl⟩, rfl⟩
  · split
    · exact ⟨.cancelled, [], nofun, .nil, by rw [List.append_nil]; rfl⟩
    · exact ⟨.failed, [], nofun, .nil, by rw [List.append_nil]; rfl⟩

/-- A failure is settled by one event. -/
theorem settleFirstFailure_run (error : Raised) (world : StreamWorld call.version) :
    ∃ events outcome, outcome ≠ .succeeded ∧ Quiet events ∧
      settleFirstFailure call environment error world =
        (.ok (), ⟨world.history ++ events ++ [⟨.emit (.outcome outcome), ()⟩],
          { world.locals with settled := true }⟩) := by
  unfold settleFirstFailure
  rw [Effect.bind_run, setLocals]
  simp only
  obtain ⟨first, hfirst, hrecord⟩ := recordFailure_run call environment error
    { world with locals := { world.locals with settled := true } }
  rw [Effect.bind_run, hrecord]
  simp only
  obtain ⟨outcome, second, hne, hsecond, hrun⟩ := failureOutcome_run call environment error
    ⟨world.history ++ first, { world.locals with settled := true }⟩
  rw [Effect.bind_run, hrun]
  refine ⟨first ++ second, outcome, hne, hfirst.append hsecond, ?_⟩
  rw [← List.append_assoc world.history first second]
  rfl

variable {call environment} {closed wrapped : Bool} {taken : List (List UInt8)}

/-- A call that did not succeed has failed once a failure is settled. -/
theorem ends_settleFailure (error : Raised) :
    Effect.Ends (Unsuccessful closed wrapped) (settleFailure call environment error)
      (fun _ => Failed closed wrapped) (fun _ _ => False) := by
  intro world hworld
  obtain ⟨settlement, taken, hne, hstands⟩ := hworld
  have hrun : ∃ target, settleFailure call environment error world = (.ok (), target) ∧
      Failed closed wrapped target := by
    unfold settleFailure
    rw [Effect.bind_run, readLocals]
    simp only
    cases settlement with
    | succeeded => exact absurd rfl hne
    | failed =>
        rw [if_pos hstands.shows.2.2]
        exact ⟨world, rfl, taken, hstands⟩
    | pending =>
        obtain ⟨hnone, hrecorded, hsettled⟩ := hstands.shows
        rw [if_neg (by rw [hsettled]; exact Bool.false_ne_true)]
        obtain ⟨events, outcome, houtcome, hquiet, hrun⟩ :=
          settleFirstFailure_run call environment error world
        refine ⟨_, hrun, taken, ?_, ?_, hstands.responseClosed, hstands.wrapperClosed, ?_⟩
        · refine ⟨⟨outcome, ?_, houtcome⟩, ?_, rfl⟩
          · rw [outcomes_append, outcomes_append, hnone, hquiet.outcomes]
            rfl
          · rw [recordedSuccesses_append, recordedSuccesses_append, hrecorded,
              hquiet.recordedSuccesses]
            rfl
        · rw [closes_append, closes_append, hstands.closes, hquiet.closes]
          rfl
        · rw [sunk_append, sunk_append, hstands.sunk, hquiet.sunk, List.append_nil]
          exact List.append_nil taken
  obtain ⟨target, hrun, hfailed⟩ := hrun
  rw [hrun]
  constructor
  · intro value last heq
    cases heq
    exact hfailed
  · intro other last heq
    cases heq

theorem ends_failAndRaise {α : Type} {error : Raised}
    (hsettles : call.version.settles error = true) :
    Effect.Ends (Unsuccessful closed wrapped)
      (failAndRaise call environment error : StreamEffect call.version α) (fun _ _ => False)
      (fun raised world => raised = error ∧ Failed closed wrapped world) := by
  unfold failAndRaise
  rw [if_pos hsettles]
  refine Effect.Ends.bind ?_ fun _ => Effect.Ends.raise fun world h => ⟨rfl, h⟩
  exact (ends_settleFailure error).weaken (fun _ h => h) (fun _ _ h => h) fun _ _ h => h.elim

/-! ## Deadlines -/

theorem settles_of_isException {version : Version} {error : Raised} (h : error.isException = true) :
    version.settles error = true := by
  rw [Version.settles, h, Bool.true_or, Bool.true_or]

theorem settles_of_handlesCleanup {version : Version} {error : Raised}
    (h : version.handlesCleanup error = true) : version.settles error = true := by
  rw [Version.handlesCleanup, Bool.or_eq_true] at h
  cases h with
  | inl hexception => exact settles_of_isException hexception
  | inr hcancelled => rw [Version.settles, hcancelled, Bool.or_true]

variable (call environment) in
/-- One reading of the clock. -/
theorem readClock_run (world : StreamWorld call.version) :
    (∃ now, readClock call environment world =
        (.ok now, { world with history := world.history ++ [⟨.readClock, .ok now⟩] })) ∨
      ∃ error : call.version.SettlementError, readClock call environment world =
        (.error error.1, { world with history := world.history ++ [⟨.readClock, .error error⟩] }) := by
  obtain ⟨answer, hanswer⟩ := exists_perform_run environment .readClock world
  rw [readClock, Effect.bind_run, hanswer]
  cases answer with
  | ok now => exact .inl ⟨now, rfl⟩
  | error error => exact .inr ⟨error, rfl⟩

/-- The clock was read in time, and nothing happened behind that. -/
def InTime (call : Export) (history : StreamHistory call.version) : Prop :=
  ∃ front now, history = front ++ [⟨.readClock, .ok now⟩] ∧ 0 < call.deadline.left now

variable (call environment) in
/-- A check of the deadline reads the clock, and raises what a settlement handles. -/
theorem assertDispatchable_run (world : StreamWorld call.version) :
    ∃ events, Quiet events ∧
      (assertDispatchable call environment world =
          (.ok (), { world with history := world.history ++ events }) ∧
        InTime call (world.history ++ events) ∨
      ∃ error, call.version.settles error = true ∧ assertDispatchable call environment world =
        (.error error, { world with history := world.history ++ events })) := by
  unfold assertDispatchable DeadlineMonitor.assertDispatchable DeadlineMonitor.remaining
  rw [Effect.bind_run, Effect.bind_run]
  obtain ⟨now, hnow⟩ | ⟨error, herror⟩ := readClock_run call environment world
  · rw [hnow]
    simp only [Effect.pure_run]
    split
    · next hlate =>
        unfold DeadlineMonitor.raiseExhausted
        rw [Effect.bind_run]
        obtain ⟨again, hagain⟩ | ⟨error, herror⟩ := readClock_run call environment
          { world with history := world.history ++ [⟨.readClock, .ok now⟩] }
        · rw [hagain]
          refine ⟨[⟨.readClock, .ok now⟩] ++ [⟨.readClock, .ok again⟩], ⟨rfl, rfl, rfl, rfl⟩, .inr
            ⟨_, settles_of_isException rfl, by rw [← List.append_assoc]; rfl⟩⟩
        · rw [herror]
          exact ⟨[⟨.readClock, .ok now⟩] ++ [⟨.readClock, .error error⟩], ⟨rfl, rfl, rfl, rfl⟩,
            .inr ⟨error.1, error.2, by rw [← List.append_assoc]⟩⟩
    · next htime =>
        exact ⟨[⟨.readClock, .ok now⟩], ⟨rfl, rfl, rfl, rfl⟩, .inl ⟨rfl, world.history, now, rfl,
          not_le.mp htime⟩⟩
  · rw [herror]
    exact ⟨[⟨.readClock, .error error⟩], ⟨rfl, rfl, rfl, rfl⟩, .inr ⟨error.1, error.2, rfl⟩⟩

/-- A check of the deadline leaves a call where it stands. -/
theorem ends_assertDispatchable {settlement : Settlement} :
    Effect.Ends (Stands settlement closed wrapped taken) (assertDispatchable call environment)
      (fun _ world => Stands settlement closed wrapped taken world ∧ InTime call world.history)
      (fun error world => call.version.settles error = true ∧
        Stands settlement closed wrapped taken world) := by
  intro world hstands
  obtain ⟨events, hquiet, hrun⟩ := assertDispatchable_run call environment world
  have htarget := hstands.quiet hquiet rfl rfl rfl
  obtain ⟨hrun, htime⟩ | ⟨error, hsettles, hrun⟩ := hrun
  · rw [hrun]
    constructor
    · intro value target heq
      cases heq
      exact ⟨htarget, htime⟩
    · intro other target heq
      cases heq
  · rw [hrun]
    constructor
    · intro value target heq
      cases heq
    · intro other target heq
      cases heq
      exact ⟨hsettles, htarget⟩

/-! ## Chunks -/

/-- What the loop has digested: the non-empty chunks so far. -/
structure Reading (call : Export) (seen : List (List UInt8)) (digesting : Digesting)
    (world : StreamWorld call.version) : Prop where
  stands : Stands .pending false false (if call.hasSink then seen else []) world
  sizeBytes : digesting.sizeBytes = seen.flatten.length
  hashed : digesting.hashed = seen.flatten
  decoded : Utf8.Decoder.decodeAll {} seen = some digesting.decoder
  bounded : (digesting.sizeBytes : Int) ≤ call.maxBytes

/-- An exception that a settlement handles, out of a call that did not succeed. -/
def RaisedOpen (call : Export) (error : Raised) (world : StreamWorld call.version) : Prop :=
  call.version.settles error = true ∧ Unsuccessful false false world

theorem Reading.flags {seen : List (List UInt8)} {digesting : Digesting}
    {world : StreamWorld call.version} (h : Reading call seen digesting world) {guard : Guard}
    (hsettled : guard.settled = world.locals.settled)
    (hresponse : guard.responseClosed = world.locals.responseClosed)
    (hwrapper : guard.wrapperClosed = world.locals.wrapperClosed) :
    Reading call seen digesting { world with locals := guard } :=
  { h with stands := h.stands.flags hsettled hresponse hwrapper }

theorem ends_chunksFailed {α : Type} {error : Raised}
    (hsettles : call.version.settles error = true) :
    Effect.Ends (Unsuccessful false false)
      (chunksFailed call environment error : StreamEffect call.version α) (fun _ _ => False)
      (RaisedOpen call) := by
  unfold chunksFailed
  refine Effect.Ends.bind (R := fun _ => Unsuccessful false false)
    (Ends.setLocals fun world h => h.flags rfl rfl rfl) fun _ => ?_
  refine Effect.Ends.ite (fun _ => Effect.Ends.raise fun _ h => ⟨hsettles, h⟩) fun _ => ?_
  refine (ends_failAndRaise hsettles).weaken (fun _ h => h) (fun _ _ h => h) ?_
  rintro raised world ⟨rfl, h⟩
  exact ⟨hsettles, h.unsuccessful⟩

variable (taken) in
theorem ends_giveToSink (chunk : List UInt8) :
    Effect.Ends (Stands .pending false false taken) (giveToSink call environment chunk)
      (fun _ => Stands .pending false false (if call.hasSink then taken ++ [chunk] else taken))
      (RaisedOpen call) := by
  unfold giveToSink
  refine Effect.Ends.ite (fun hsink => ?_) fun hnone => Effect.Ends.pure fun _ h => ?_
  · rw [if_pos hsink]
    refine Effect.Ends.bind (R := fun _ => Stands .pending false false (taken ++ [chunk]))
      (Ends.perform fun world answer h => ?_) fun answer => ?_
    · refine ⟨?_, ?_, h.responseClosed, h.wrapperClosed, ?_⟩
      · have hnone : outcomes [(⟨.sink chunk, answer⟩ : Happening (StreamOp.Answer call.version))] =
            [] := rfl
        rw [outcomes_append, recordedSuccesses_append, hnone, List.append_nil]
        exact h.shows
      · rw [closes_append]
        exact h.closes
      · rw [sunk_append, h.sunk]
        rfl
    · cases answer with
      | ok done => exact Effect.Ends.pure fun _ h => h
      | error error => exact Effect.Ends.raise fun _ h => ⟨error.2, h.unsuccessful⟩
  · rw [if_neg hnone]
    exact h

theorem ends_digestStreamChunk {seen : List (List UInt8)} {digesting : Digesting}
    (chunk : List UInt8) :
    Effect.Ends (Reading call seen digesting)
      (digestStreamChunk call environment chunk digesting) (Reading call (seen ++ [chunk]))
      (RaisedOpen call) := by
  unfold digestStreamChunk
  refine Effect.Ends.ite (fun _ => ?_) fun hsize => ?_
  · exact Effect.Ends.raise fun _ h => ⟨settles_of_isException rfl, h.stands.unsuccessful⟩
  · split
    · exact Effect.Ends.raise fun _ h => ⟨settles_of_isException rfl, h.stands.unsuccessful⟩
    · next decoder hdecoder =>
        -- What is known of the digest does not depend on the world.
        refine Effect.Ends.assume (A := digesting.sizeBytes = seen.flatten.length ∧
          digesting.hashed = seen.flatten ∧
            Utf8.Decoder.decodeAll {} seen = some digesting.decoder)
          (fun _ h => ⟨h.sizeBytes, h.hashed, h.decoded⟩) fun ⟨hbytes, hhashed, hdecoded⟩ => ?_
        refine Effect.Ends.bind ((ends_giveToSink (if call.hasSink then seen else []) chunk).weaken
          (fun _ h => h.stands) (fun _ _ h => h) fun _ _ h => h) fun _ => ?_
        refine Effect.Ends.pure fun world h => ?_
        refine ⟨?_, ?_, ?_, ?_, by simpa using hsize⟩
        · cases hgiven : call.hasSink <;> simpa [hgiven] using h
        · simp only [hbytes, List.flatten_append, List.length_append, List.flatten_singleton]
        · simp only [hhashed, List.flatten_append, List.flatten_singleton]
        · rw [Utf8.Decoder.decodeAll_eq] at hdecoded ⊢
          rw [List.flatten_append, Utf8.Decoder.decode_append, hdecoded, List.flatten_singleton]
          exact hdecoder

/-- An empty chunk is passed over. -/
theorem ends_digestNonEmpty {seen : List (List UInt8)} {digesting : Digesting}
    (chunk : List UInt8) :
    Effect.Ends (Reading call seen digesting) (digestNonEmpty call environment chunk digesting)
      (Reading call (seen ++ [chunk].filter (· ≠ []))) (RaisedOpen call) := by
  unfold digestNonEmpty
  refine Effect.Ends.ite (fun hempty => Effect.Ends.pure fun _ h => ?_) fun hother => ?_
  · rw [List.isEmpty_iff.mp hempty]
    simpa using h
  · have hne : chunk ≠ [] := fun h => hother (List.isEmpty_iff.mpr h)
    rw [List.filter_cons_of_pos (by simpa using hne), List.filter_nil]
    exact ends_digestStreamChunk chunk

/-- A check of the deadline before a chunk is given on. -/
theorem ends_checkChunk {seen : List (List UInt8)} {digesting : Digesting} :
    Effect.Ends (Reading call seen digesting)
      (Effect.tryExcept (assertDispatchable call environment) (chunksFailed call environment))
      (fun _ => Reading call seen digesting) (RaisedOpen call) := by
  intro world h
  obtain ⟨events, hquiet, hrun⟩ := assertDispatchable_run call environment world
  have htarget := h.stands.quiet hquiet rfl rfl rfl
  obtain ⟨hrun, -⟩ | ⟨error, hsettles, hrun⟩ := hrun
  · rw [Effect.tryExcept_run, hrun]
    constructor
    · intro value target heq
      cases heq
      exact { h with stands := htarget }
    · intro other target heq
      cases heq
  · rw [Effect.tryExcept_run, hrun]
    have hfailed : Effect.Ends (Unsuccessful false false)
        (chunksFailed call environment error : StreamEffect call.version Unit) (fun _ _ => False)
        (RaisedOpen call) := ends_chunksFailed hsettles
    obtain ⟨hreturned, hraised⟩ := hfailed _ htarget.unsuccessful
    exact ⟨fun value target heq => (hreturned value target heq).elim, hraised⟩

/-- Whatever the generator raises is settled. -/
def RaisesSettled (version : Version) : Generator Raised (List UInt8) → Prop
  | .stop => True
  | .raise error => version.settles error = true
  | .yield _ rest => RaisesSettled version rest

theorem raisesSettled_iterate {version : Version}
    (source : Generator version.SettlementError RawChunk) :
    RaisesSettled version (iterate source) := by
  induction source with
  | stop => trivial
  | raise error => exact error.2
  | yield chunk rest ih =>
      cases chunk with
      | other => exact settles_of_isException rfl
      | bytes data =>
          rw [iterate]
          split
          · exact ih
          · exact ih

/-- The loop digests the chunks of its generator, or raises. -/
theorem ends_digestChunks {source : Generator Raised (List UInt8)}
    (hsource : RaisesSettled call.version source) (seen : List (List UInt8))
    (digesting : Digesting) :
    Effect.Ends (Reading call seen digesting) (digestChunks call environment source digesting)
      (fun digesting world =>
        (Reading call (seen ++ source.values.filter (· ≠ [])) digesting world ∧ Consumed world) ∧
          source.fails = false)
      (RaisedOpen call) := by
  induction source generalizing seen digesting with
  | stop =>
      refine Effect.Ends.bind (R := fun _ world => Reading call seen digesting world ∧
        Consumed world) (Ends.setLocals fun world h => ⟨h.flags rfl rfl rfl, rfl, rfl⟩) fun _ => ?_
      refine Effect.Ends.pure fun world h => ⟨?_, rfl⟩
      rw [Generator.values, List.filter_nil, List.append_nil]
      exact h
  | raise error =>
      exact (ends_chunksFailed hsource).weaken (fun _ h => h.stands.unsuccessful)
        (fun _ _ h => h.elim) fun _ _ h => h
  | yield chunk rest ih =>
      refine Effect.Ends.bind ends_checkChunk fun _ => ?_
      refine Effect.Ends.bind (R := fun _ => Reading call seen digesting)
        (Ends.setLocals fun world h => h.flags rfl rfl rfl) fun _ => ?_
      refine Effect.Ends.bind (ends_digestNonEmpty chunk) fun digesting => ?_
      refine (ih hsource _ digesting).weaken (fun _ h => h) (fun digesting world h => ?_)
        fun _ _ h => h
      rw [Generator.values, ← List.singleton_append, List.filter_append, ← List.append_assoc]
      exact h

/-- A response that is iterated to its end yields the chunks that are not empty. -/
theorem exists_chunks {version : Version} {source : Generator version.SettlementError RawChunk}
    (hreturns : (iterate source).fails = false) :
    ∃ chunks : List (List UInt8), source = .ofList (chunks.map .bytes) ∧
      (iterate source).values.filter (· ≠ []) = chunks.filter (· ≠ []) := by
  induction source with
  | stop => exact ⟨[], rfl, rfl⟩
  | raise error => cases hreturns
  | yield chunk rest ih =>
      cases chunk with
      | other => cases hreturns
      | bytes data =>
          rw [iterate] at hreturns ⊢
          split
          · next hempty =>
              rw [if_pos hempty] at hreturns
              obtain ⟨chunks, hrest, hvalues⟩ := ih hreturns
              refine ⟨data :: chunks, by rw [hrest]; rfl, ?_⟩
              rw [hvalues, List.isEmpty_iff.mp hempty]
              rfl
          · next hother =>
              rw [if_neg hother] at hreturns
              obtain ⟨chunks, hrest, hvalues⟩ := ih hreturns
              refine ⟨data :: chunks, by rw [hrest]; rfl, ?_⟩
              rw [Generator.values, List.filter_cons, List.filter_cons, hvalues]

theorem flatten_filter_ne (chunks : List (List UInt8)) :
    (chunks.filter (· ≠ [])).flatten = chunks.flatten := by
  induction chunks with
  | nil => rfl
  | cons chunk chunks ih =>
      rw [List.filter_cons]
      split
      · rw [List.flatten_cons, List.flatten_cons, ih]
      · next hempty =>
          have hnil : chunk = [] := by simpa using hempty
          rw [hnil, List.flatten_cons, List.nil_append, ih]

/-- What a call that read its stream to the end knows of all chunks. -/
structure Digested (call : Export) (mediaType : Text) (digesting : Digesting)
    (chunks : List (List UInt8)) : Prop where
  mediaType_ne : mediaType ≠ []
  consumed : call.source = .ofList (chunks.map .bytes)
  sizeBytes : digesting.sizeBytes = chunks.flatten.length
  hashed : digesting.hashed = chunks.flatten
  decoded : ∃ text : List Char, text.flatMap String.utf8EncodeChar = chunks.flatten
  bounded : (chunks.flatten.length : Int) ≤ call.maxBytes

theorem mediaType_ne {mediaType : Text} (h : call.responseMediaType = .ok mediaType) :
    mediaType ≠ [] := by
  unfold Export.responseMediaType at h
  split at h
  · split_ifs at h
    unfold Export.mediaTypeOf at h
    split at h
    · cases h
    · simp only at h
      split_ifs at h with hinvalid hparameters hexpected
      cases h
      exact fun hnil => hinvalid (.inl hnil)
  · cases h

theorem isException_of_mediaTypeOf {value : Text} {error : Raised}
    (h : call.mediaTypeOf value = .error error) : error.isException = true := by
  unfold Export.mediaTypeOf at h
  split at h
  · cases h
    rfl
  · simp only at h
    split_ifs at h
    all_goals
      cases h
      rfl

theorem isException_of_responseMediaType {error : Raised}
    (h : call.responseMediaType = .error error) : error.isException = true := by
  unfold Export.responseMediaType at h
  split at h
  · split_ifs at h
    · cases h
      rfl
    · exact isException_of_mediaTypeOf h
  · cases h
    rfl

/-- What the sink of a call is given of these chunks. -/
def takenOf (call : Export) (chunks : List (List UInt8)) : List (List UInt8) :=
  if call.hasSink then chunks.filter (· ≠ []) else []

theorem digested_of_reading {mediaType : Text} {digesting : Digesting}
    {world : StreamWorld call.version} (hmediaType : mediaType ≠ [])
    (hreading : Reading call ((iterate call.source).values.filter (· ≠ [])) digesting world)
    (hreturns : (iterate call.source).fails = false) (hdone : digesting.decoder.isDone = true) :
    ∃ chunks, Digested call mediaType digesting chunks ∧
      Stands .pending false false (takenOf call chunks) world := by
  obtain ⟨chunks, hsource, hvalues⟩ := exists_chunks hreturns
  obtain ⟨hstands, hsize, hhashed, hdecoded, hbounded⟩ := hreading
  rw [hvalues] at hstands hsize hhashed hdecoded
  rw [flatten_filter_ne] at hsize hhashed
  rw [Utf8.Decoder.decodeAll_eq, flatten_filter_ne] at hdecoded
  exact ⟨chunks, ⟨hmediaType, hsource, hsize, hhashed,
    (Utf8.Decoder.decodes_iff _).mp ⟨_, hdecoded, hdone⟩, hsize ▸ hbounded⟩, hstands⟩

theorem ends_readStream (hlimit : ¬call.maxBytes < 1) :
    Effect.Ends (Stands .pending false false []) (readStream call environment)
      (fun read world => (∃ chunks, Digested call read.1 read.2 chunks ∧
        Stands .pending false false (takenOf call chunks) world) ∧ Consumed world)
      (RaisedOpen call) := by
  unfold readStream
  refine Effect.Ends.bind (R := fun mediaType world => mediaType ≠ [] ∧
    Stands .pending false false [] world) ?_ fun mediaType => ?_
  · refine Effect.Ends.ofExcept (fun mediaType h world hstands => ⟨mediaType_ne h, hstands⟩) ?_
    intro error herror world hstands
    exact ⟨settles_of_isException (isException_of_responseMediaType herror),
      hstands.unsuccessful⟩
  · refine Effect.Ends.assume (fun _ h => h.1) fun hmediaType => ?_
    have hstart : ∀ world, Stands .pending false false [] world → Reading call [] {} world := by
      intro world hstands
      refine ⟨?_, rfl, rfl, rfl, ?_⟩
      · cases call.hasSink <;> exact hstands
      · show (0 : Int) ≤ call.maxBytes
        omega
    refine Effect.Ends.bind ((ends_digestChunks (raisesSettled_iterate call.source) [] {}).weaken
      (fun world h => hstart world h.2) (fun _ _ h => h) fun _ _ h => h) fun digesting => ?_
    refine Effect.Ends.ite (fun hdone => ?_) fun _ => ?_
    · refine Effect.Ends.pure fun world ⟨⟨hreading, hconsumed⟩, hreturns⟩ => ⟨?_, hconsumed⟩
      exact digested_of_reading hmediaType hreading hreturns hdone
    · exact Effect.Ends.raise fun world h =>
        ⟨settles_of_isException rfl, h.1.1.stands.unsuccessful⟩

/-- Every failure of the `try` block is caught. -/
theorem ends_tryReadStream (hlimit : ¬call.maxBytes < 1) :
    Effect.Ends (Stands .pending false false []) (tryReadStream call environment)
      (fun read world =>
        match read with
        | .error failure => call.version.settles failure = true ∧ Unsuccessful false false world
        | .ok (mediaType, digesting) =>
            (∃ chunks, Digested call mediaType digesting chunks ∧
              Stands .pending false false (takenOf call chunks) world) ∧ Consumed world)
      (fun _ _ => False) := by
  unfold tryReadStream
  refine Effect.Ends.tryExcept (F := RaisedOpen call) ?_ fun error => ?_
  · exact Effect.Ends.bind (ends_readStream hlimit) fun read => Effect.Ends.pure fun _ h => h
  · refine Effect.Ends.ite (fun _ => ?_) fun _ => Effect.Ends.ite (fun hsettles => ?_) fun hother => ?_
    · exact Effect.Ends.pure fun _ h => ⟨settles_of_isException rfl, h.2⟩
    · exact Effect.Ends.pure fun _ h => ⟨hsettles, h.2⟩
    · exact Effect.Ends.raise fun _ h => hother h.1

/-! ## Closing -/

/-- Nothing is left to settle when the guard is closed. -/
def Done (guard : Guard) : Prop :=
  guard.settled = true ∨ guard.chunks = .finished ∧ guard.consumed = true

theorem settleFailure_settled {error : Raised} {world : StreamWorld call.version}
    (hsettled : world.locals.settled = true) :
    settleFailure call environment error world = (.ok (), world) := by
  rw [settleFailure, Effect.bind_run, readLocals]
  simp only
  rw [if_pos hsettled]
  rfl

variable (call environment) in
theorem failAndRaise_run {error : Raised} (hsettles : call.version.settles error = true)
    (world : StreamWorld call.version) : ∃ target,
      (failAndRaise call environment error : StreamEffect call.version Unit) world =
        (.error error, target) := by
  have hsettle : ∃ target, settleFailure call environment error world = (.ok (), target) := by
    rw [settleFailure, Effect.bind_run, readLocals]
    simp only
    split
    · exact ⟨world, rfl⟩
    · obtain ⟨events, outcome, -, -, hrun⟩ := settleFirstFailure_run call environment error world
      exact ⟨_, hrun⟩
  obtain ⟨target, htarget⟩ := hsettle
  refine ⟨target, ?_⟩
  rw [failAndRaise, if_pos hsettles, Effect.bind_run, htarget]
  rfl

variable (call environment) in
theorem primaryError_run (world : StreamWorld call.version) (hdone : Done world.locals) :
    primaryError call environment world =
      (.ok none, { world with locals := { world.locals with chunks := .finished } }) := by
  have hclose : closeChunks call environment world =
      (.ok (), { world with locals := { world.locals with chunks := .finished } }) := by
    rw [closeChunks, Effect.bind_run, readLocals]
    simp only
    rw [Effect.bind_run, setLocals]
    simp only
    split
    · next hsuspended =>
        cases hdone with
        | inl hsettled => exact settleFailure_settled hsettled
        | inr hfinished =>
            rw [hfinished.1] at hsuspended
            cases hsuspended.1
    · rfl
  rw [primaryError, Effect.tryExcept_run, Effect.bind_run, hclose]
  rfl

variable (call environment) in
theorem closeResponse_run (world : StreamWorld call.version)
    (hopen : world.locals.responseClosed = false) :
    ∃ answer, closeResponse call environment world = (answer.mapError Subtype.val,
      ⟨world.history ++ [⟨.closeResponse, answer⟩],
        { world.locals with responseClosed := true }⟩) := by
  rw [closeResponse, Effect.bind_run, readLocals]
  simp only
  rw [if_neg (by rw [hopen]; exact Bool.false_ne_true), Effect.bind_run, setLocals]
  simp only
  obtain ⟨answer, hanswer⟩ := exists_perform_run environment .closeResponse
    ⟨world.history, { world.locals with responseClosed := true }⟩
  rw [Effect.bind_run, hanswer]
  exact ⟨answer, Effect.ofExcept_run _ _⟩

variable (call environment) in
theorem settleUnfinished_run (world : StreamWorld call.version) (hdone : Done world.locals) :
    settleUnfinished call environment world = (.ok (), world) := by
  rw [settleUnfinished, Effect.bind_run, readLocals]
  simp only
  rw [if_neg]
  · rfl
  · rintro ⟨hsettled, hconsumed⟩
    cases hdone with
    | inl h =>
        rw [hsettled] at h
        cases h
    | inr h =>
        rw [hconsumed] at h
        cases h.2

variable (call environment) in
/-- A guard is closed when nothing is left to settle: the response beneath is closed, and an
exception of that is settled and raised. -/
theorem closeGuard_run (world : StreamWorld call.version) (hdone : Done world.locals)
    (hopen : world.locals.responseClosed = false) :
    closeGuard call environment world =
        (.ok (), ⟨world.history ++ [⟨.closeResponse, .ok ()⟩],
          { world.locals with chunks := .finished, responseClosed := true }⟩) ∨
      ∃ error : call.version.CleanupError, closeGuard call environment world =
        failAndRaise call environment error.1
          ⟨world.history ++ [⟨.closeResponse, .error error⟩],
            { world.locals with chunks := .finished, responseClosed := true }⟩ := by
  rw [closeGuard, Effect.bind_run, primaryError_run call environment world hdone]
  simp only
  obtain ⟨answer, hanswer⟩ := closeResponse_run call environment
    ⟨world.history, { world.locals with chunks := .finished }⟩ hopen
  rw [Effect.bind_run, Effect.tryExcept_run, hanswer]
  cases answer with
  | ok done =>
      left
      exact settleUnfinished_run call environment
        ⟨world.history ++ [⟨.closeResponse, .ok ()⟩],
          { world.locals with chunks := .finished, responseClosed := true }⟩
        (hdone.imp id fun h => ⟨rfl, h.2⟩)
  | error error =>
      right
      refine ⟨error, ?_⟩
      simp only [Except.mapError]
      have hcleanup := error.2
      have hfailed : cleanupFailed call environment none error.1 =
          (failAndRaise call environment error.1 : StreamEffect call.version Unit) := by
        rw [cleanupFailed, if_pos hcleanup, failAndRaise,
          if_pos (settles_of_handlesCleanup hcleanup)]
      obtain ⟨target, htarget⟩ := failAndRaise_run call environment
        (settles_of_handlesCleanup hcleanup) ⟨world.history ++ [⟨.closeResponse, .error error⟩],
          { world.locals with chunks := .finished, responseClosed := true }⟩
      rw [hfailed, htarget]

/-- Closing the response that the guard gives out, when nothing is left to settle. -/
theorem ends_close {settlement : Settlement} (hsettlement : settlement ≠ .succeeded) :
    Effect.Ends
      (fun world : StreamWorld call.version =>
        Stands settlement false false taken world ∧ Done world.locals)
      (close call environment)
      (fun _ world => Stands settlement true true taken world)
      (fun error world => call.version.settles error = true ∧ Failed true true world) := by
  intro world ⟨hstands, hdone⟩
  have hclosed : ∀ answer : Except call.version.CleanupError Unit,
      Stands settlement true true taken (⟨world.history ++ [⟨.closeResponse, answer⟩],
        { world.locals with
          chunks := .finished, responseClosed := true, wrapperClosed := true }⟩ :
        StreamWorld call.version) := by
    intro answer
    refine ⟨?_, ?_, rfl, rfl, ?_⟩
    · have hnone : outcomes [(⟨.closeResponse, answer⟩ :
          Happening (StreamOp.Answer call.version))] = [] := rfl
      rw [outcomes_append, recordedSuccesses_append, hnone, List.append_nil]
      exact hstands.shows
    · rw [closes_append, hstands.closes]
      rfl
    · rw [sunk_append, hstands.sunk]
      exact List.append_nil taken
  have hrun : close call environment world = closeGuard call environment
      { world with locals := { world.locals with wrapperClosed := true } } := by
    rw [close, Effect.bind_run, readLocals]
    simp only
    rw [if_neg (by rw [hstands.wrapperClosed]; exact Bool.false_ne_true)]
    rfl
  rw [hrun]
  obtain hreturned | ⟨error, hraised⟩ := closeGuard_run call environment
    { world with locals := { world.locals with wrapperClosed := true } } hdone
    hstands.responseClosed
  · rw [hreturned]
    constructor
    · intro value target heq
      cases heq
      exact hclosed (.ok ())
    · intro other target heq
      cases heq
  · rw [hraised]
    have hsettles := settles_of_handlesCleanup error.2
    have hends : Effect.Ends (Unsuccessful true true)
        (failAndRaise call environment error.1 : StreamEffect call.version Unit)
        (fun _ _ => False) (fun raised world => raised = error.1 ∧ Failed true true world) :=
      ends_failAndRaise hsettles
    obtain ⟨hok, herror⟩ := hends _ ⟨settlement, taken, hsettlement, hclosed (.error error)⟩
    refine ⟨fun value target heq => (hok value target heq).elim, fun raised target heq => ?_⟩
    obtain ⟨rfl, hfailed⟩ := herror raised target heq
    exact ⟨hsettles, hfailed⟩

/-! ## Ends of a call -/

/-- A failure is reported, and its response is closed. -/
theorem ends_failStream {failure : Raised} :
    Effect.Ends (Unsuccessful false false)
      (finishStream call environment (.error failure)) (fun _ _ => False)
      (fun _ => Failed true true) := by
  unfold finishStream reportStreamFailure finishStreamFailure
  refine Effect.Ends.bind (R := fun _ => Failed false false) ?_ fun _ => ?_
  · refine Effect.Ends.tryExcept (F := fun _ _ => False) ?_ fun _ => fun _ h => h.elim
    exact Effect.Ends.bind (ends_settleFailure failure) fun _ => Effect.Ends.pure fun _ h => h
  · refine Effect.Ends.bind (R := fun _ => Failed true true) ?_ fun _ =>
      Effect.Ends.raise fun _ h => h
    refine Effect.Ends.of_exists fun taken => ?_
    have hne : Settlement.failed ≠ .succeeded := nofun
    refine Effect.Ends.tryExcept ((ends_close hne).weaken
      (fun world h => ⟨h, .inl h.shows.2.2⟩) (fun _ _ h => ⟨taken, h⟩) fun _ _ h => h) fun error => ?_
    exact Effect.Ends.ite (fun _ => Effect.Ends.raise fun _ h => h.2) fun _ =>
      Effect.Ends.raise fun _ h => h.2

variable (call environment) in
/-- A success is told to the breakers and by an event. -/
theorem settleFirstSuccess_run (world : StreamWorld call.version) :
    ∃ events, events.all isSettling = true ∧ outcomes events = [.succeeded] ∧
      recordedSuccesses events = 1 ∧ closes events = 0 ∧ sunk events = [] ∧
        settleFirstSuccess call environment world =
          (.ok (), ⟨world.history ++ events, { world.locals with settled := true }⟩) := by
  unfold settleFirstSuccess
  rw [Effect.bind_run, setLocals]
  simp only
  obtain ⟨before, hbefore⟩ := exists_perform_run environment .inspect
    { world with locals := { world.locals with settled := true } }
  rw [Effect.bind_run, hbefore]
  simp only
  obtain ⟨after, hafter⟩ := exists_perform_run environment .recordSuccess
    ⟨world.history ++ [⟨.inspect, before⟩], { world.locals with settled := true }⟩
  rw [Effect.bind_run, hafter]
  simp only
  obtain ⟨events, hquiet, hsettling, hrun⟩ := emitBreakerChange_run call environment before.isOpen
    after.isOpen ⟨world.history ++ [⟨.inspect, before⟩] ++ [⟨.recordSuccess, after⟩],
      { world.locals with settled := true }⟩
  rw [Effect.bind_run, hrun]
  refine ⟨[⟨.inspect, before⟩] ++ [⟨.recordSuccess, after⟩] ++ events ++
    [⟨.emit (.outcome .succeeded), ()⟩], ?_, ?_, ?_, ?_, ?_, ?_⟩
  · rw [List.all_append, List.all_append, hsettling]
    rfl
  · rw [outcomes_append, outcomes_append, hquiet.outcomes]
    rfl
  · rw [recordedSuccesses_append, recordedSuccesses_append, hquiet.recordedSuccesses]
    rfl
  · rw [closes_append, closes_append, hquiet.closes]
    rfl
  · rw [sunk_append, sunk_append, hquiet.sunk]
    rfl
  · simp only [← List.append_assoc]
    rfl

theorem ends_settleFirstSuccess :
    Effect.Ends
      (fun world : StreamWorld call.version =>
        Stands .pending closed wrapped taken world ∧ InTime call world.history)
      (settleFirstSuccess call environment)
      (fun _ world => Stands .succeeded closed wrapped taken world ∧
        SettledInTime call world.history) (fun _ _ => False) := by
  intro world ⟨hstands, front, now, hhistory, htime⟩
  obtain ⟨events, hsettling, houtcomes, hrecorded, hcloses, hsunk, hrun⟩ :=
    settleFirstSuccess_run call environment world
  rw [hrun]
  constructor
  · intro value target heq
    cases heq
    refine ⟨⟨⟨?_, ?_, rfl⟩, ?_, hstands.responseClosed, hstands.wrapperClosed, ?_⟩,
      front, now, events, ?_, htime, hsettling⟩
    · rw [outcomes_append, hstands.shows.1, houtcomes]
      rfl
    · rw [recordedSuccesses_append, hstands.shows.2.1, hrecorded]
    · rw [closes_append, hcloses, hstands.closes, Nat.add_zero]
    · rw [sunk_append, hsunk, hstands.sunk, List.append_nil]
    · show world.history ++ events = _
      rw [hhistory, List.append_assoc]
      rfl
  · intro other target heq
    cases heq

/-- A success is settled in time, or its failure is. -/
theorem ends_settleSuccess :
    Effect.Ends (Stands .pending closed wrapped taken) (settleSuccess call environment)
      (fun _ world => Stands .succeeded closed wrapped taken world ∧
        SettledInTime call world.history)
      (fun error world => call.version.settles error = true ∧ Failed closed wrapped world) := by
  unfold settleSuccess settleInTime
  refine Effect.Ends.bind Ends.readLocals fun guard => ?_
  refine Effect.Ends.ite (fun hsettled world h => ?_) fun _ => ?_
  · obtain ⟨rfl, hstands⟩ := h
    rw [hstands.shows.2.2] at hsettled
    cases hsettled
  · refine Effect.Ends.bind (R := fun _ world => Stands .pending closed wrapped taken world ∧
      InTime call world.history) ?_ fun _ => ?_
    · refine Effect.Ends.tryExcept (ends_assertDispatchable.weaken (fun _ h => h.2)
        (fun _ _ h => h) fun _ _ h => h) fun error => ?_
      refine Effect.Ends.assume (fun _ h => h.1) fun hsettles => ?_
      refine (ends_failAndRaise hsettles).weaken (fun _ h => h.2.unsuccessful)
        (fun _ _ h => h.elim) ?_
      rintro raised world ⟨rfl, hfailed⟩
      exact ⟨hsettles, hfailed⟩
    · exact ends_settleFirstSuccess.weaken (fun _ h => h) (fun _ _ h => h) fun _ _ h => h.elim

/-- A stream that was read to its end is closed, and then settled. -/
theorem ends_finishStreamSuccess :
    Effect.Ends
      (fun world : StreamWorld call.version =>
        Stands .pending false false taken world ∧ Consumed world)
      (finishStreamSuccess call environment)
      (fun _ world => Stands .succeeded true true taken world ∧ SettledInTime call world.history)
      (fun _ => Failed true true) := by
  unfold finishStreamSuccess
  have hne : Settlement.pending ≠ .succeeded := nofun
  refine Effect.Ends.bind ((ends_close hne).weaken (fun world h => ⟨h.1, .inr ⟨h.2.2, h.2.1⟩⟩)
    (fun _ _ h => h) fun _ _ h => h.2) fun _ => ?_
  refine Effect.Ends.tryExcept ends_settleSuccess fun error => ?_
  refine Effect.Ends.assume (fun _ h => h.1) fun hsettles => ?_
  exact (ends_failAndRaise hsettles).weaken (fun _ h => h.2.unsuccessful)
    (fun _ _ h => h.elim) fun _ _ h => h.2

/-- The document of a stream that was read to its end can be built. -/
theorem exists_document {mediaType : Text} (hmediaType : mediaType ≠ []) (sizeBytes : Nat)
    (bytes : List UInt8) : ∃ document, call.document mediaType sizeBytes bytes = .ok document ∧
      document.sizeBytes = sizeBytes ∧ document.sha256 = call.sha256 bytes := by
  have htype : String.ofList mediaType ≠ "" := fun h => hmediaType (String.ofList_eq_empty_iff.mp h)
  have hstatus : ¬¬(200 ≤ call.statusCode ∧ call.statusCode ≤ 399) := by
    have := call.statusCode_success
    omega
  have hsha : ¬isLowerSha256 (call.sha256 bytes) = false := by
    rw [call.sha256_valid]
    exact nofun
  rw [Export.document, SiteDocument.new, if_neg call.endpoint_ne, if_neg htype, if_neg hstatus,
    if_neg hsha]
  simp only [freezeJsonObject, freezeJson, Except.map]
  rw [if_neg call.format_ne]
  exact ⟨_, rfl, rfl, rfl⟩

variable (environment) in
/-- What follows the `try` block of a stream that was read to its end. -/
theorem ends_succeedStream {mediaType : Text} {digesting : Digesting} {chunks : List (List UInt8)}
    (hdigested : Digested call mediaType digesting chunks) :
    Effect.Ends
      (fun world : StreamWorld call.version =>
        Stands .pending false false (takenOf call chunks) world ∧ Consumed world)
      (finishStream call environment (.ok (mediaType, digesting)))
      (fun document world => Stands .succeeded true true (takenOf call chunks) world ∧
        call.Describes world.history document chunks) (fun _ => Failed true true) := by
  unfold finishStream
  refine Effect.Ends.bind ends_finishStreamSuccess fun _ => ?_
  obtain ⟨document, hdocument, hsize, hsha⟩ :=
    exists_document hdigested.mediaType_ne digesting.sizeBytes digesting.hashed
  rw [hdocument]
  refine Effect.Ends.pure fun world ⟨hstands, htime⟩ => ⟨hstands, ?_⟩
  exact
    { consumed := hdigested.consumed
      bounded := hdigested.bounded
      decoded := hdigested.decoded
      sizeBytes := hsize.trans hdigested.sizeBytes
      sha256 := by rw [hsha, hdigested.hashed]
      sunk := hstands.sunk
      inTime := htime }

variable (environment) in
/-- A call with a limit ends with a document of all chunks, or failed. -/
theorem ends_digestStreamDocument (hlimit : ¬call.maxBytes < 1) :
    Effect.Ends (Stands .pending false false []) (digestStreamDocument call environment)
      (fun document world => ∃ chunks, Stands .succeeded true true (takenOf call chunks) world ∧
        call.Describes world.history document chunks) (fun _ => Failed true true) := by
  unfold digestStreamDocument
  rw [if_neg hlimit]
  refine Effect.Ends.bind ((ends_tryReadStream hlimit).weaken (fun _ h => h) (fun _ _ h => h)
    fun _ _ h => h.elim) fun read => ?_
  cases read with
  | error failure =>
      exact ends_failStream.weaken (fun _ h => h.2) (fun _ _ h => h.elim) fun _ _ h => h
  | ok read =>
      obtain ⟨mediaType, digesting⟩ := read
      intro world ⟨⟨chunks, hdigested, hstands⟩, hconsumed⟩
      obtain ⟨hreturned, hraised⟩ := ends_succeedStream environment hdigested world
        ⟨hstands, hconsumed⟩
      exact ⟨fun document target hrun => ⟨chunks, hreturned document target hrun⟩, hraised⟩

end Settling

/-! ## Settled once -/

theorem Export.SettledOnce.of_failed {call : Export} {error : Raised}
    {world : StreamWorld call.version} (h : Failed true true world) :
    call.SettledOnce (.error error, world) := by
  obtain ⟨taken, ⟨⟨outcome, houtcome, hne⟩, hrecorded, -⟩, hcloses, -⟩ := h
  refine ⟨⟨outcome, houtcome, ?_⟩, ?_, fun _ => hrecorded, hcloses, ?_⟩
  · exact ⟨fun h => absurd h hne, nofun⟩
  · exact nofun
  · exact nofun

theorem Export.SettledOnce.of_succeeded {call : Export} {document : SiteDocument}
    {world : StreamWorld call.version} {chunks : List (List UInt8)}
    (h : Stands .succeeded true true (takenOf call chunks) world)
    (hdescribes : call.Describes world.history document chunks) :
    call.SettledOnce (.ok document, world) := by
  obtain ⟨⟨houtcome, hrecorded, -⟩, hcloses, -⟩ := h
  refine ⟨⟨.succeeded, houtcome, fun _ => ⟨document, rfl⟩, fun _ => rfl⟩, fun _ => hrecorded,
    fun h => absurd ⟨document, rfl⟩ h, hcloses, ?_⟩
  intro other heq
  cases heq
  exact ⟨chunks, hdescribes⟩

/-- With a limit, a call over a guarded response is settled once, whatever is raised and wherever;
without one it raises before anything happens. -/
theorem stream_settled_once (call : Export) (environment : StreamEnvironment call.version) :
    let run := digestStreamDocument call environment ⟨[], {}⟩
    if call.maxBytes < 1 then
      run = (.error (.valueError "uData root export limits must be positive integers."), ⟨[], {}⟩)
    else call.SettledOnce run := by
  intro run
  split
  · next hlimit =>
      show digestStreamDocument call environment ⟨[], {}⟩ = _
      rw [digestStreamDocument, if_pos hlimit]
      rfl
  · next hlimit =>
      have hstart : Stands .pending false false [] (⟨[], {}⟩ : StreamWorld call.version) :=
        ⟨⟨rfl, rfl, rfl⟩, rfl, rfl, rfl, rfl⟩
      obtain ⟨hreturned, hraised⟩ := ends_digestStreamDocument environment hlimit _ hstart
      cases hrun : run with
      | mk result world =>
          cases result with
          | error error => exact .of_failed (hraised error world hrun)
          | ok document =>
              obtain ⟨chunks, hstands, hdescribes⟩ := hreturned document world hrun
              exact .of_succeeded hstands hdescribes

/-! ## A limit of no bytes -/

/-- An hour in all. -/
def oneHour : TimeBudget where
  connect := 1
  read := 1
  write := 1
  total := 3600
  connect_pos := by norm_num
  read_pos := by norm_num
  write_pos := by norm_num
  total_pos := by norm_num
  le_total := by norm_num

/-- An export of no chunks, limited to no bytes. -/
def zeroLimit : Export where
  version := .sync
  unicode := .ascii
  redaction :=
    { containsCredentialContent := fun _ => false, redactString := id, otherText := "" }
  className _ := "ValueError"
  sha256 _ := .ofList (List.replicate 64 '0')
  operation := ⟨"udata", "site", "export"⟩
  deadline := { budget := oneHour, startedAt := 0 }
  statusCode := 200
  headers := [("Content-Type", "text/csv")]
  source := .stop
  endpoint := "/api/1/site/tags.csv"
  expectedMediaType := "text/csv".toList
  maxBytes := 0
  hasSink := false
  format := some "csv"
  sha256_valid _ := by decide +kernel
  endpoint_ne := by decide
  format_ne := by decide
  statusCode_success := by decide

/-- Nothing raises, and no time passes. -/
def calm (version : Version) : StreamEnvironment version := fun _ op =>
  match op with
  | .readClock => .ok 0
  | .readUsage => 0
  | .sink _ => .ok ()
  | .closeResponse => .ok ()
  | .inspect | .recordTransportFailure | .recordSuccess =>
      { failureThreshold := 1, cooldown := 1, threshold_pos := by decide, cooldown_pos := by decide }
  | .emit _ => ()

/-- With a limit of no bytes a call ends without an event, and closes nothing. -/
theorem zero_limit_unsettled :
    ¬∀ (call : Export) (environment : StreamEnvironment call.version),
      let run := digestStreamDocument call environment ⟨[], {}⟩
      (∃ outcome, outcomes run.2.history = [outcome]) ∧ closes run.2.history = 1 := by
  intro h
  obtain ⟨⟨outcome, houtcome⟩, -⟩ := h zeroLimit (calm .sync)
  have hnone : outcomes (digestStreamDocument zeroLimit (calm .sync) ⟨[], {}⟩).2.history = [] := by
    rfl
  rw [hnone] at houtcome
  cases houtcome

end DataSluice.Catalog.UdataStream
