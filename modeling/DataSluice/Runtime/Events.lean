/-
# Events and their sinks

An event is built once, from metadata that has gone through redaction, and handed to every
sink in the order of their registration. A sink that fails is skipped; only an exception that
ends the task stops the others.

A `ListSink` keeps the latest events. The sinks of a caller, and the provider of correlation
identifiers, answer as they like.
-/

import Mathlib.Data.List.DropRight
import DataSluice.Catalog.UdataMutation

namespace DataSluice.Runtime.Events

open DataSluice.Lib DataSluice.Domain DataSluice.Catalog.Udata

/-! ## Envelopes -/

/-- `EventEnvelope`, with what its constructor checks. -/
structure EventEnvelope where
  operationId : String
  platform : String
  outcome : String
  correlationIds : List (Key × Value)
  metadata : List (Key × Value)
  operationId_ne : operationId ≠ ""
  platform_ne : platform ≠ ""
  outcome_ne : outcome ≠ ""
  correlationIds_frozen :
    ∃ given, freezeJsonObject "runtime_event.correlation_ids" given = .ok correlationIds
  metadata_frozen : ∃ given, freezeJsonObject "runtime_event.metadata" given = .ok metadata

/-- The error of `_required_text`. -/
def emptyText (path : String) : Raised :=
  .valueError ("Runtime event " ++ path ++ " must be a non-empty string.")

/-- `_INVALID_RUNTIME_EVENT_ENVELOPE` -/
def invalidEnvelope : Raised := .valueError "Invalid schema-v1 runtime event envelope."

/-- `_required_text` -/
def requiredEventText (path : String) : Value → Except Raised String
  | .str text => if text = "" then .error (emptyText path) else .ok text
  | _ => .error (emptyText path)

namespace EventEnvelope

/-- The constructor. -/
def new (operationId platform outcome : String) (correlationIds metadata : List (Key × Value)) :
    Except Raised EventEnvelope :=
  if operationId_ne : operationId = "" then .error (emptyText "operation_id")
  else if platform_ne : platform = "" then .error (emptyText "platform")
  else if outcome_ne : outcome = "" then .error (emptyText "outcome")
  else
    match hcorrelation : freezeJsonObject "runtime_event.correlation_ids" correlationIds with
    | .error error => .error (contractFailure error)
    | .ok frozenIds =>
        match hmetadata : freezeJsonObject "runtime_event.metadata" metadata with
        | .error error => .error (contractFailure error)
        | .ok frozen =>
            .ok
              { operationId
                platform
                outcome
                correlationIds := frozenIds
                metadata := frozen
                operationId_ne
                platform_ne
                outcome_ne
                correlationIds_frozen := ⟨_, hcorrelation⟩
                metadata_frozen := ⟨_, hmetadata⟩ }

/-- `to_dict` -/
def toDict (envelope : EventEnvelope) : Value :=
  Domain.envelope "runtime_event"
    [("operation_id", .str envelope.operationId), ("platform", .str envelope.platform),
      ("outcome", .str envelope.outcome),
      ("correlation_ids", thawJson (.proxy envelope.correlationIds)),
      ("metadata", thawJson (.proxy envelope.metadata))]

/-- `_EVENT_KEYS`, beside the schema version and the kind. -/
def keys : List String := ["operation_id", "platform", "outcome", "correlation_ids", "metadata"]

/-- A `DataSluiceError` inside `from_dict`. -/
def asInvalid {α : Type} : Except ContractError α → Except Raised α
  | .ok value => .ok value
  | .error _ => .error invalidEnvelope

/-- A `DataSluiceError` of the constructor; a `ValueError` stays. -/
def reload (result : Except Raised EventEnvelope) : Except Raised EventEnvelope :=
  match result with
  | .ok envelope => .ok envelope
  | .error error =>
      if error.errorClass = .valueError then .error error else .error invalidEnvelope

/-- `from_dict` -/
def fromDict (value : Value) : Except Raised EventEnvelope := do
  let data ← asInvalid (openEnvelope "runtime_event" "runtime_event" keys value)
  let operationId ← requiredEventText "operation_id" (fieldOf data "operation_id")
  let platform ← requiredEventText "platform" (fieldOf data "platform")
  let outcome ← requiredEventText "outcome" (fieldOf data "outcome")
  let correlationIds ← asInvalid
    (objectDict "runtime_event.correlation_ids" (fieldOf data "correlation_ids"))
  let metadata ← asInvalid (objectDict "runtime_event.metadata" (fieldOf data "metadata"))
  reload (new operationId platform outcome
    (correlationIds.map fun entry => (.text entry.1, entry.2))
    (metadata.map fun entry => (.text entry.1, entry.2)))

theorem new_eq (event : EventEnvelope) {correlationIds metadata : List (Key × Value)}
    (hcorrelation : freezeJsonObject "runtime_event.correlation_ids" correlationIds =
      .ok event.correlationIds)
    (hmetadata : freezeJsonObject "runtime_event.metadata" metadata = .ok event.metadata) :
    new event.operationId event.platform event.outcome correlationIds metadata = .ok event := by
  unfold new
  rw [dif_neg event.operationId_ne, dif_neg event.platform_ne, dif_neg event.outcome_ne]
  split
  · next error herror =>
      rw [hcorrelation] at herror
      cases herror
  · next frozenIds hids =>
      rw [hcorrelation] at hids
      cases hids
      split
      · next error herror =>
          rw [hmetadata] at herror
          cases herror
      · next frozen hfrozen =>
          rw [hmetadata] at hfrozen
          cases hfrozen
          rfl

/-- A frozen mapping that was thawed is read back, and freezes to itself. -/
theorem exists_copied {path : String} {frozen : List (Key × Value)}
    (hfrozen : ∃ given, freezeJsonObject path given = .ok frozen) :
    ∃ copied, objectDict path (thawJson (.proxy frozen)) = .ok copied ∧
      freezeJsonObject path (copied.map fun entry => (.text entry.1, entry.2)) = .ok frozen := by
  obtain ⟨given, hgiven⟩ := hfrozen
  obtain ⟨copied, hcopied, hentries⟩ := objectDict_thawJson hgiven path
  refine ⟨copied, hcopied, ?_⟩
  rw [hentries]
  exact freezeJsonObject_thawJson path given hgiven

/-- An event is read back from its own envelope. -/
theorem fromDict_toDict (event : EventEnvelope) : fromDict event.toDict = .ok event := by
  have hopen := openEnvelope_envelope "runtime_event" "runtime_event"
    [("operation_id", .str event.operationId), ("platform", .str event.platform),
      ("outcome", .str event.outcome),
      ("correlation_ids", thawJson (.proxy event.correlationIds)),
      ("metadata", thawJson (.proxy event.metadata))]
  obtain ⟨ids, hids, hcorrelation⟩ := exists_copied event.correlationIds_frozen
  obtain ⟨copied, hcopied, hmetadata⟩ := exists_copied event.metadata_frozen
  have htext : ∀ (path : String) {text : String}, text ≠ "" →
      requiredEventText path (.str text) = .ok text := fun path text htext => if_neg htext
  simp only [List.map_cons, List.map_nil] at hopen
  rw [fromDict, toDict, keys, hopen]
  simp only [bind, Except.bind, asInvalid, fieldOf, List.lookup_cons, Option.getD,
    String.reduceBEq, htext _ event.operationId_ne, htext _ event.platform_ne,
    htext _ event.outcome_ne, hids, hcopied, event.new_eq hcorrelation hmetadata, reload]

end EventEnvelope

/-! ## Sinks -/

theorem length_rtake_le {α : Type} (items : List α) (bound : Nat) :
    (items.rtake bound).length ≤ bound := by
  rw [List.rtake, List.length_drop]
  omega

theorem rtake_of_le {α : Type} {items : List α} {bound : Nat} (hlength : items.length ≤ bound) :
    items.rtake bound = items := by
  rw [List.rtake, Nat.sub_eq_zero_of_le hlength, List.drop_zero]

/-- What was dropped earlier is not among the latest. -/
theorem rtake_append {α : Type} (items more : List α) (bound : Nat) :
    (items.rtake bound ++ more).rtake bound = (items ++ more).rtake bound := by
  simp only [List.rtake_eq_reverse_take_reverse, List.reverse_append, List.reverse_reverse,
    List.take_append, List.length_reverse, List.take_take,
    Nat.min_eq_left (Nat.sub_le bound more.length)]

/-- `ListSink`, told apart from others by its number. -/
structure ListSink where
  number : Nat
  maxEvents : Nat
  maxEvents_pos : 1 ≤ maxEvents
  deriving DecidableEq

/-- What is registered with an emitter. -/
inductive Sink
  | list (sink : ListSink)
  | /-- A callable, or an object with a method `record`, of the caller. -/
    caller (number : Nat)
  deriving DecidableEq

/-- The events that a `ListSink` keeps. -/
abbrev Kept (sink : ListSink) : Type :=
  { events : List EventEnvelope // events.length ≤ sink.maxEvents }

/-- `ListSink.record` -/
def ListSink.record (sink : ListSink) (kept : Kept sink) (event : EventEnvelope) : Kept sink :=
  ⟨(kept.val ++ [event]).rtake sink.maxEvents, length_rtake_le _ _⟩

/-! ## The emitter -/

/-- What the emitter asks of its caller. -/
inductive EventOp
  | correlationIds
  | deliver (number : Nat) (event : EventEnvelope)

/-- What the caller's functions return. -/
def EventOp.Reply : EventOp → Type
  | .correlationIds => List (Key × Value)
  | .deliver _ _ => Unit

/-- What they return or raise. -/
abbrev Answer (op : EventOp) : Type := Except Raised op.Reply

/-- The calls so far, and what the `ListSink`s keep. -/
abbrev EventWorld : Type := World Answer ((sink : ListSink) → Kept sink)

/-- `EventEmitter`, with the redaction of the process. -/
structure EventEmitter where
  context : ReceiptContext
  sinks : List Sink
  hasProvider : Bool

/-- The arguments of `EventEmitter.record`. -/
structure EventCall where
  operationId : String
  platform : String
  outcome : String
  metadata : List (Key × Value) := []
  correlationIds : List (Key × Value) := []

section Emitter

variable (environment : Environment Answer)

/-- `correlation_id_provider()` -/
def provideCorrelationIds : Effect EventWorld Raised (List (Key × Value)) :=
  ask environment .correlationIds

/-- A sink of the caller is called. -/
def callSink (number : Nat) (event : EventEnvelope) : Effect EventWorld Raised Unit :=
  ask environment (.deliver number event)

theorem provideCorrelationIds_run (world : EventWorld) :
    provideCorrelationIds environment world = (environment world.history .correlationIds,
      { world with history := world.history ++
          [⟨.correlationIds, environment world.history .correlationIds⟩] }) :=
  ask_run environment .correlationIds world

theorem callSink_run (number : Nat) (event : EventEnvelope) (world : EventWorld) :
    callSink environment number event world =
      (environment world.history (.deliver number event),
        { world with history := world.history ++
            [⟨.deliver number event, environment world.history (.deliver number event)⟩] }) :=
  ask_run environment (.deliver number event) world

/-- An exception that is logged; one that ends the task goes on. -/
def logged {State : Type} (error : Raised) : Effect State Raised Unit :=
  if error.isException = true then return () else Effect.raise error

/-- Hand the event to one sink. -/
def deliver (event : EventEnvelope) : Sink → Effect EventWorld Raised Unit
  | .list sink => setLocals fun kept => Function.update kept sink (sink.record (kept sink) event)
  | .caller number => callSink environment number event

/-- The loop over the sinks. -/
def deliverAll (event : EventEnvelope) : List Sink → Effect EventWorld Raised Unit
  | [] => return ()
  | sink :: sinks => do
      Effect.tryExcept (deliver environment event sink) logged
      deliverAll event sinks

namespace EventEmitter

variable (emitter : EventEmitter)

/-- The identifiers that the provider gives, or none. -/
def activeCorrelationIds : Effect EventWorld Raised (List (Key × Value)) :=
  if emitter.hasProvider = true then
    Effect.tryExcept (provideCorrelationIds environment) fun error => do
      logged error
      return []
  else return []

/-- `EventEmitter.record` -/
def record (call : EventCall) : Effect EventWorld Raised EventEnvelope := do
  let active ← emitter.activeCorrelationIds environment
  let event ← Effect.ofExcept (EventEnvelope.new call.operationId call.platform call.outcome
    (emitter.context.redactEventMetadata (mergeEntries active call.correlationIds))
    (emitter.context.redactEventMetadata call.metadata))
  deliverAll environment event emitter.sinks
  return event

/-- Events one after the other, whatever becomes of each. -/
def recordAll : List EventCall → Effect EventWorld Raised (List (Except Raised EventEnvelope))
  | [] => return []
  | call :: calls => do
      let result ← Effect.tryExcept (Except.ok <$> emitter.record environment call) fun error =>
        return .error error
      let results ← recordAll calls
      return result :: results

end EventEmitter

end Emitter

/-! ## What reaches the sinks -/

/-- The events that a sink of the caller was called with. -/
def deliveries (number : Nat) : List (Happening Answer) → List EventEnvelope
  | [] => []
  | ⟨.correlationIds, _⟩ :: rest => deliveries number rest
  | ⟨.deliver other event, _⟩ :: rest =>
      if other = number then event :: deliveries number rest else deliveries number rest

@[simp] theorem deliveries_append (number : Nat) (first second : List (Happening Answer)) :
    deliveries number (first ++ second) = deliveries number first ++ deliveries number second := by
  induction first with
  | nil => rfl
  | cons happening first ih =>
      obtain ⟨op, answer⟩ := happening
      cases op with
      | correlationIds => exact ih
      | deliver other event =>
          rw [List.cons_append, deliveries, deliveries, ih]
          split <;> rfl

/-- From one world to another every sink got its events: those of the caller were called with
them in order, and a `ListSink` keeps the latest. -/
structure Received (share : Sink → List EventEnvelope) (world target : EventWorld) : Prop where
  callers : ∀ number, deliveries number target.history =
    deliveries number world.history ++ share (.caller number)
  lists : ∀ sink : ListSink, (target.locals sink).val =
    ((world.locals sink).val ++ share (.list sink)).rtake sink.maxEvents

theorem Received.refl {share : Sink → List EventEnvelope} (hnothing : ∀ sink, share sink = [])
    (world : EventWorld) : Received share world world where
  callers := fun number => by rw [hnothing, List.append_nil]
  lists := fun sink => by
    rw [hnothing, List.append_nil, rtake_of_le (world.locals sink).property]

theorem Received.trans {first second share : Sink → List EventEnvelope}
    {world between target : EventWorld} (hfirst : Received first world between)
    (hsecond : Received second between target)
    (hshare : ∀ sink, share sink = first sink ++ second sink) : Received share world target where
  callers := fun number => by
    rw [hsecond.callers, hfirst.callers, hshare, List.append_assoc]
  lists := fun sink => by
    rw [hsecond.lists, hfirst.lists, hshare, rtake_append, List.append_assoc]

/-- One event for each place that the sink has among the given ones. -/
def shareOf (sinks : List Sink) (event : EventEnvelope) (sink : Sink) : List EventEnvelope :=
  List.replicate (sinks.count sink) event

theorem shareOf_cons (first : Sink) (sinks : List Sink) (event : EventEnvelope) (sink : Sink) :
    shareOf (first :: sinks) event sink =
      shareOf [first] event sink ++ shareOf sinks event sink := by
  unfold shareOf
  rw [← List.replicate_add, ← List.count_append, List.singleton_append]

section Runs

variable (environment : Environment Answer)

/-- A sink that is called gets the event, whatever it answers. -/
theorem received_deliver (event : EventEnvelope) (sink : Sink) (world : EventWorld) :
    Received (shareOf [sink] event) world (deliver environment event sink world).2 := by
  cases sink with
  | list sink =>
      constructor
      · intro number
        have hother : shareOf [.list sink] event (.caller number) = [] := rfl
        rw [hother, List.append_nil]
        rfl
      · intro other
        show (Function.update world.locals sink
          (sink.record (world.locals sink) event) other).val = _
        by_cases hsame : other = sink
        · subst hsame
          rw [Function.update_self, shareOf, List.count_singleton_self]
          rfl
        · have hshare : shareOf [.list sink] event (.list other) = [] := by
            rw [shareOf, List.count_singleton, if_neg]
            · rfl
            · simpa using fun hsink => hsame hsink.symm
          rw [Function.update_of_ne hsame, hshare, List.append_nil,
            rtake_of_le (world.locals other).property]
  | caller number =>
      show Received _ world (callSink environment number event world).2
      rw [callSink_run]
      constructor
      · intro other
        rw [deliveries_append]
        congr 1
        by_cases hsame : number = other
        · subst hsame
          rw [deliveries, if_pos rfl, shareOf, List.count_singleton_self]
          rfl
        · have hne : (Sink.caller number == Sink.caller other) = false := by
            simpa using hsame
          rw [deliveries, if_neg hsame, shareOf, List.count_singleton, hne]
          rfl
      · intro sink
        have hother : shareOf [.caller number] event (.list sink) = [] := rfl
        rw [hother, List.append_nil, rtake_of_le (world.locals sink).property]

/-- What the emitter makes of a sink's answer. -/
def survived : Except Raised Unit → Except Raised Unit
  | .ok _ => .ok ()
  | .error error => if error.isException = true then .ok () else .error error

theorem tryExcept_logged_run {State : Type} (program : Effect State Raised Unit) (state : State) :
    program.tryExcept logged state = (survived (program state).1, (program state).2) := by
  rw [Effect.tryExcept_run]
  cases program state with
  | mk answer target =>
      cases answer with
      | ok done => rfl
      | error error =>
          by_cases hexception : error.isException = true
          · simp [logged, survived, hexception]
          · simp [logged, survived, hexception]

/-! ### What one sink is asked -/

/-- The call that a sink answers: a `ListSink` is not asked anything. -/
def callOf (event : EventEnvelope) (answer : Except Raised Unit) : Sink → List (Happening Answer)
  | .list _ => []
  | .caller number => [⟨.deliver number event, answer⟩]

theorem deliver_history (event : EventEnvelope) (sink : Sink) (world : EventWorld) :
    (deliver environment event sink world).2.history =
      world.history ++ callOf event (deliver environment event sink world).1 sink := by
  cases sink with
  | list sink => exact (List.append_nil _).symm
  | caller number =>
      show (callSink environment number event world).2.history =
        world.history ++ [⟨.deliver number event, (callSink environment number event world).1⟩]
      rw [callSink_run]

/-- Only a sink of the caller ends the task. -/
theorem exists_caller_of_survived_error {event : EventEnvelope} {sink : Sink}
    {world : EventWorld} {error : Raised}
    (hends : survived (deliver environment event sink world).1 = .error error) :
    error.isException = false ∧ ∃ number, sink = .caller number ∧
      (deliver environment event sink world).1 = .error error := by
  cases sink with
  | list sink => cases hends
  | caller number =>
      cases hanswer : (deliver environment event (.caller number) world).1 with
      | ok done =>
          rw [hanswer] at hends
          cases hends
      | error raised =>
          rw [hanswer] at hends
          unfold survived at hends
          by_cases hexception : raised.isException = true
          · simp [hexception] at hends
          · obtain rfl : raised = error := by simpa [hexception] using hends
            exact ⟨by simpa using hexception, number, rfl, rfl⟩

/-! ### The way of an event along the sinks -/

/-- The calls of an event that went past the given sinks: every sink of the caller among them
was called with it once, in their order, and returned or raised an `Exception`. -/
inductive Passed (event : EventEnvelope) : List Sink → List (Happening Answer) → Prop
  | done : Passed event [] []
  | sink (sink : Sink) {sinks : List Sink} {answer : Except Raised Unit}
      {calls : List (Happening Answer)} (survives : survived answer = .ok ())
      (rest : Passed event sinks calls) :
      Passed event (sink :: sinks) (callOf event answer sink ++ calls)

/-- How the loop over the sinks ends, which sinks were handed the event, and with which calls:
all of them, or those up to the one whose exception ends the task, which is called last. -/
inductive Handed (event : EventEnvelope) (sinks : List Sink) :
    Except Raised Unit → List Sink → List (Happening Answer) → Prop
  | all {calls : List (Happening Answer)} (passed : Passed event sinks calls) :
      Handed event sinks (.ok ()) sinks calls
  | stopped {before after : List Sink} {number : Nat} {calls : List (Happening Answer)}
      {error : Raised} (sinks_eq : sinks = before ++ .caller number :: after)
      (passed : Passed event before calls) (fatal : error.isException = false) :
      Handed event sinks (.error error) (before ++ [.caller number])
        (calls ++ [⟨.deliver number event, .error error⟩])

/-- A sink in front that lets the event go on. -/
theorem Handed.cons {event : EventEnvelope} {sinks handed : List Sink}
    {result answer : Except Raised Unit} {calls : List (Happening Answer)} (sink : Sink)
    (hsurvives : survived answer = .ok ()) (hrest : Handed event sinks result handed calls) :
    Handed event (sink :: sinks) result (sink :: handed) (callOf event answer sink ++ calls) := by
  cases hrest with
  | all passed => exact .all (.sink sink hsurvives passed)
  | @stopped before after number calls error sinks_eq passed fatal =>
      rw [← List.cons_append, ← List.append_assoc]
      exact .stopped (congrArg (sink :: ·) sinks_eq) (.sink sink hsurvives passed) fatal

/-- The loop hands the event to the sinks one after the other, and to no sink behind one that
ends the task. The induction is on the sinks. -/
theorem handed_deliverAll (event : EventEnvelope) (sinks : List Sink) (world : EventWorld) :
    ∃ handed calls,
      Handed event sinks (deliverAll environment event sinks world).1 handed calls ∧
      (deliverAll environment event sinks world).2.history = world.history ++ calls ∧
      Received (shareOf handed event) world (deliverAll environment event sinks world).2 := by
  induction sinks generalizing world with
  | nil => exact ⟨[], [], .all .done, (List.append_nil _).symm, .refl (fun _ => rfl) world⟩
  | cons sink sinks ih =>
      have hfirst := received_deliver environment event sink world
      have hhistory := deliver_history environment event sink world
      unfold deliverAll
      rw [Effect.bind_run, tryExcept_logged_run]
      cases hsurvives : survived (deliver environment event sink world).1 with
      | ok done =>
          obtain ⟨handed, calls, hhanded, hcalls, hrest⟩ :=
            ih (deliver environment event sink world).2
          refine ⟨sink :: handed, _, hhanded.cons sink hsurvives, ?_,
            hfirst.trans hrest fun other => shareOf_cons sink handed event other⟩
          calc (deliverAll environment event sinks
                (deliver environment event sink world).2).2.history
              = (deliver environment event sink world).2.history ++ calls := hcalls
            _ = world.history ++ (callOf event (deliver environment event sink world).1 sink ++
                calls) := by rw [hhistory, List.append_assoc]
      | error error =>
          obtain ⟨hfatal, number, rfl, hanswer⟩ :=
            exists_caller_of_survived_error environment hsurvives
          refine ⟨[.caller number], [⟨.deliver number event, .error error⟩],
            .stopped (List.nil_append (.caller number :: sinks)).symm .done hfatal, ?_, hfirst⟩
          rw [hanswer] at hhistory
          exact hhistory

/-! ### One event -/

/-- How the provider of identifiers is asked: an emitter without one asks nothing, and an
`Exception` of the provider leaves the event without its identifiers. -/
inductive Provided (hasProvider : Bool) :
    Except Raised (List (Key × Value)) → List (Happening Answer) → Prop
  | without (absent : hasProvider = false) : Provided hasProvider (.ok []) []
  | given (ids : List (Key × Value)) (present : hasProvider = true) :
      Provided hasProvider (.ok ids) [⟨.correlationIds, .ok ids⟩]
  | failed (error : Raised) (present : hasProvider = true) (logged : error.isException = true) :
      Provided hasProvider (.ok []) [⟨.correlationIds, .error error⟩]
  | fatal (error : Raised) (present : hasProvider = true) (fatal : error.isException = false) :
      Provided hasProvider (.error error) [⟨.correlationIds, .error error⟩]

/-- The provider of identifiers changes nothing that a sink sees. -/
theorem provided_activeCorrelationIds (emitter : EventEmitter) (world : EventWorld) :
    ∃ calls, Provided emitter.hasProvider (emitter.activeCorrelationIds environment world).1 calls ∧
      (emitter.activeCorrelationIds environment world).2.history = world.history ++ calls ∧
      Received (fun _ => []) world (emitter.activeCorrelationIds environment world).2 := by
  unfold EventEmitter.activeCorrelationIds
  split
  next hprovider =>
    have hasked : ∀ answer : Answer .correlationIds, Received (fun _ => []) world
        { world with history := world.history ++ [⟨.correlationIds, answer⟩] } := by
      intro answer
      constructor
      · intro number
        rw [deliveries_append]
        rfl
      · intro sink
        rw [List.append_nil, rtake_of_le (world.locals sink).property]
    rw [Effect.tryExcept_run, provideCorrelationIds_run]
    cases environment world.history .correlationIds with
    | ok ids => exact ⟨_, .given ids hprovider, rfl, hasked _⟩
    | error error =>
        by_cases hexception : error.isException = true
        · simp only [logged, if_pos hexception, Effect.bind_run, Effect.pure_run]
          exact ⟨_, .failed error hprovider hexception, rfl, hasked _⟩
        · simp only [logged, if_neg hexception, Effect.bind_run, Effect.raise_run]
          exact ⟨_, .fatal error hprovider (by simpa using hexception), rfl, hasked _⟩
  next hprovider =>
    exact ⟨[], .without (by simpa using hprovider), (List.append_nil _).symm,
      .refl (fun _ => rfl) world⟩

/-- The event that a call builds from the identifiers of the provider. -/
def eventOf (emitter : EventEmitter) (call : EventCall) (active : List (Key × Value)) :
    Except Raised EventEnvelope :=
  EventEnvelope.new call.operationId call.platform call.outcome
    (emitter.context.redactEventMetadata (mergeEntries active call.correlationIds))
    (emitter.context.redactEventMetadata call.metadata)

/-- What one call of `record` left behind: the calls it made, and the sinks it handed an event
to, in their order. -/
structure Passage where
  calls : List (Happening Answer)
  event : Option EventEnvelope
  handed : List Sink

/-- What became of one call of `record`. Either the provider of identifiers ends the task, or
the constructor refuses the event, and no sink is handed anything; or the event that the call
builds is handed to every sink and returned; or it is handed to the sinks up to one whose
exception ends the task, and `record` raises that exception. -/
inductive Emission (emitter : EventEmitter) (call : EventCall) :
    Except Raised EventEnvelope → Passage → Prop
  | unasked {asked : List (Happening Answer)} {error : Raised}
      (provided : Provided emitter.hasProvider (.error error) asked) :
      Emission emitter call (.error error) ⟨asked, none, []⟩
  | refused {asked : List (Happening Answer)} {active : List (Key × Value)} {error : Raised}
      (provided : Provided emitter.hasProvider (.ok active) asked)
      (invalid : eventOf emitter call active = .error error) :
      Emission emitter call (.error error) ⟨asked, none, []⟩
  | emitted {asked calls : List (Happening Answer)} {active : List (Key × Value)}
      {event : EventEnvelope} (provided : Provided emitter.hasProvider (.ok active) asked)
      (built : eventOf emitter call active = .ok event)
      (passed : Passed event emitter.sinks calls) :
      Emission emitter call (.ok event) ⟨asked ++ calls, some event, emitter.sinks⟩
  | stopped {asked calls : List (Happening Answer)} {active : List (Key × Value)}
      {event : EventEnvelope} {before after : List Sink} {number : Nat} {error : Raised}
      (provided : Provided emitter.hasProvider (.ok active) asked)
      (built : eventOf emitter call active = .ok event)
      (sinks_eq : emitter.sinks = before ++ .caller number :: after)
      (passed : Passed event before calls) (fatal : error.isException = false) :
      Emission emitter call (.error error)
        ⟨asked ++ (calls ++ [⟨.deliver number event, .error error⟩]), some event,
          before ++ [.caller number]⟩

/-- The events that a sink gets: one for each of its places among the sinks that were handed
an event. -/
def shareOfAll (passages : List Passage) (sink : Sink) : List EventEnvelope :=
  passages.flatMap fun passage =>
    match passage.event with
    | none => []
    | some event => shareOf passage.handed event sink

theorem shareOfAll_cons (passage : Passage) (passages : List Passage) (sink : Sink) :
    shareOfAll (passage :: passages) sink =
      shareOfAll [passage] sink ++ shareOfAll passages sink := by
  have hone : shareOfAll [passage] sink = match passage.event with
      | none => []
      | some event => shareOf passage.handed event sink := by
    rw [shareOfAll, List.flatMap_cons, List.flatMap_nil, List.append_nil]
  rw [hone]
  exact List.flatMap_cons

theorem record_run (emitter : EventEmitter) (call : EventCall) (world : EventWorld) :
    emitter.record environment call world =
      match emitter.activeCorrelationIds environment world with
      | (.error error, target) => (.error error, target)
      | (.ok active, between) =>
          match eventOf emitter call active with
          | .error error => (.error error, between)
          | .ok event =>
              match deliverAll environment event emitter.sinks between with
              | (.ok _, target) => (.ok event, target)
              | (.error error, target) => (.error error, target) := by
  unfold EventEmitter.record
  rw [Effect.bind_run]
  cases emitter.activeCorrelationIds environment world with
  | mk answer between =>
      cases answer with
      | error error => rfl
      | ok active =>
          simp only [Effect.bind_run, Effect.ofExcept_run, eventOf]
          cases EventEnvelope.new _ _ _ _ _ with
          | error error => rfl
          | ok event =>
              simp only
              cases deliverAll environment event emitter.sinks between with
              | mk answer target => cases answer <;> rfl

/-- One call of `record`: the provider first, then the constructor, then the sinks. -/
theorem emission_record (emitter : EventEmitter) (call : EventCall) (world : EventWorld) :
    ∃ passage, Emission emitter call (emitter.record environment call world).1 passage ∧
      (emitter.record environment call world).2.history = world.history ++ passage.calls ∧
      Received (shareOfAll [passage]) world (emitter.record environment call world).2 := by
  obtain ⟨asked, hprovided, hasked, hactive⟩ :=
    provided_activeCorrelationIds environment emitter world
  rw [record_run]
  cases hids : emitter.activeCorrelationIds environment world with
  | mk answer between =>
      rw [hids] at hprovided hasked hactive
      cases answer with
      | error error => exact ⟨⟨asked, none, []⟩, .unasked hprovided, hasked, hactive⟩
      | ok active =>
          cases hevent : eventOf emitter call active with
          | error error =>
              simp only [hevent]
              exact ⟨⟨asked, none, []⟩, .refused hprovided hevent, hasked, hactive⟩
          | ok event =>
              simp only [hevent]
              obtain ⟨handed, calls, hhanded, hcalls, hreceived⟩ :=
                handed_deliverAll environment event emitter.sinks between
              have hall : Received (shareOfAll [⟨asked ++ calls, some event, handed⟩]) world
                  (deliverAll environment event emitter.sinks between).2 :=
                hactive.trans hreceived fun sink => List.append_nil _
              have hhistory : (deliverAll environment event emitter.sinks between).2.history =
                  world.history ++ (asked ++ calls) := by
                rw [hcalls, hasked, List.append_assoc]
              cases hdeliver : deliverAll environment event emitter.sinks between with
              | mk answer target =>
                  rw [hdeliver] at hhanded hall hhistory
                  cases hhanded with
                  | all passed =>
                      exact ⟨_, .emitted hprovided hevent passed, hhistory, hall⟩
                  | stopped sinks_eq passed fatal =>
                      exact ⟨_, .stopped hprovided hevent sinks_eq passed fatal, hhistory, hall⟩

/-! ### Many events -/

/-- What became of each of a sequence of calls. -/
inductive Emissions (emitter : EventEmitter) :
    List EventCall → List (Except Raised EventEnvelope) → List Passage → Prop
  | done : Emissions emitter [] [] []
  | call {call : EventCall} {calls : List EventCall} {result : Except Raised EventEnvelope}
      {results : List (Except Raised EventEnvelope)} {passage : Passage}
      {passages : List Passage} (first : Emission emitter call result passage)
      (rest : Emissions emitter calls results passages) :
      Emissions emitter (call :: calls) (result :: results) (passage :: passages)

/-- A call behind which others follow does not stop them, whatever becomes of it. -/
theorem recordAll_cons_run (emitter : EventEmitter) (call : EventCall) (calls : List EventCall)
    (world : EventWorld) {results : List (Except Raised EventEnvelope)} {target : EventWorld}
    (hrest : emitter.recordAll environment calls
      (emitter.record environment call world).2 = (.ok results, target)) :
    emitter.recordAll environment (call :: calls) world =
      (.ok ((emitter.record environment call world).1 :: results), target) := by
  unfold EventEmitter.recordAll
  rw [Effect.bind_run, Effect.tryExcept_run, Effect.map_run]
  cases hrecord : emitter.record environment call world with
  | mk answer between =>
      rw [hrecord] at hrest
      cases answer with
      | ok event => simp only [Effect.bind_run, hrest, Effect.pure_run]
      | error error => simp only [Effect.bind_run, hrest, Effect.pure_run]

theorem emissions_recordAll (emitter : EventEmitter) (calls : List EventCall)
    (world : EventWorld) :
    ∃ results target passages,
      emitter.recordAll environment calls world = (.ok results, target) ∧
      Emissions emitter calls results passages ∧
      target.history = world.history ++ passages.flatMap Passage.calls ∧
      Received (shareOfAll passages) world target := by
  induction calls generalizing world with
  | nil => exact ⟨[], world, [], rfl, .done, (List.append_nil _).symm, .refl (fun _ => rfl) world⟩
  | cons call calls ih =>
      obtain ⟨passage, hemission, hcalls, hfirst⟩ :=
        emission_record environment emitter call world
      obtain ⟨results, target, passages, hrest, hemissions, hhistory, hreceived⟩ :=
        ih (emitter.record environment call world).2
      refine ⟨_, target, passage :: passages, recordAll_cons_run environment emitter call calls
        world hrest, .call hemission hemissions, ?_,
        hfirst.trans hreceived (shareOfAll_cons passage passages)⟩
      calc target.history
          = (emitter.record environment call world).2.history ++
              passages.flatMap Passage.calls := hhistory
        _ = world.history ++ (passage :: passages).flatMap Passage.calls := by
              rw [hcalls, List.append_assoc, List.flatMap_cons]

end Runs

/-- Over any sequence of events, whatever the caller's sinks and provider answer: every call of
`record` ends in one of the ways of `Emission`. An event that is returned was handed to every
sink, in order and once for each registration, whether or not other sinks failed; one that is
refused was handed to none; one that was stopped was handed to the sinks up to the one whose
exception, which is no `Exception`, ended the task, and to no sink behind it. Nothing else is
asked of the caller and nothing else reaches a sink. A `ListSink` keeps the latest of its
events, and every event is read back from its own envelope. -/
theorem events_reach_sinks (environment : Environment Answer) (emitter : EventEmitter)
    (calls : List EventCall) (world : EventWorld) :
    ∃ results target passages,
      emitter.recordAll environment calls world = (.ok results, target) ∧
      Emissions emitter calls results passages ∧
      target.history = world.history ++ passages.flatMap Passage.calls ∧
      (∀ number, deliveries number target.history = deliveries number world.history ++
        shareOfAll passages (.caller number)) ∧
      (∀ sink : ListSink, (target.locals sink).val = ((world.locals sink).val ++
        shareOfAll passages (.list sink)).rtake sink.maxEvents) ∧
      ∀ event : EventEnvelope, EventEnvelope.fromDict event.toDict = .ok event := by
  obtain ⟨results, target, passages, hrun, hemissions, hhistory, hreceived⟩ :=
    emissions_recordAll environment emitter calls world
  exact ⟨results, target, passages, hrun, hemissions, hhistory, hreceived.callers,
    hreceived.lists, EventEnvelope.fromDict_toDict⟩

end DataSluice.Runtime.Events
