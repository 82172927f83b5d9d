/-
# Requests that are sent once

A history tells which requests were dispatched, what came of them, and what the clock showed
behind them. A call that cannot be repeated dispatches one request at most. Where the
operations behind a send do not raise, the one dispatch explains the error that such a call
leaves with: it is what the send raised, or the deadline ran out behind the send, or the error
names the status of the response.
-/

import DataSluice.Catalog.UdataRules

namespace DataSluice.Catalog.Udata

open DataSluice.Lib DataSluice.Domain DataSluice.Runtime DataSluice.Runtime.Transport

variable {Stream Locals : Type} {environment : CallEnvironment Stream} {client : UDataClient}
  {call : DatasetCall Stream}

/-! ## Dispatches -/

/-- A request that was dispatched, its answer, and what the clock showed first behind it. -/
structure Dispatched (Stream : Type) where
  request : Request Stream
  answer : Except Raised RuntimeResponse
  clock : Option ℚ

namespace Dispatched

/-- The clock is read behind a dispatch. -/
def read (now : ℚ) (dispatched : Dispatched Stream) : Dispatched Stream :=
  { dispatched with clock := some (dispatched.clock.getD now) }

/-- The deadline had run out when the clock was read behind the dispatch. -/
def Late (dispatched : Dispatched Stream) : Prop :=
  ∃ deadline ∈ dispatched.request.deadline, ∃ now ∈ dispatched.clock, deadline.left now ≤ 0

/-- The deadline, if there is one, had not run out when the clock was read. -/
def InTime (dispatched : Dispatched Stream) : Prop :=
  ∀ deadline ∈ dispatched.request.deadline, ∃ now ∈ dispatched.clock, 0 < deadline.left now

/-- The first reading behind a dispatch counts, so one that was late stays late. -/
theorem Late.read {dispatched : Dispatched Stream} (hlate : dispatched.Late) (now : ℚ) :
    (dispatched.read now).Late := by
  obtain ⟨deadline, hdeadline, shown, hshown, hleft⟩ := hlate
  exact ⟨deadline, hdeadline, shown, by rw [Dispatched.read, hshown]; rfl, hleft⟩

/-- For the same reason a dispatch in time stays in time. -/
theorem InTime.read {dispatched : Dispatched Stream} (htime : dispatched.InTime) (now : ℚ) :
    (dispatched.read now).InTime := by
  intro deadline hdeadline
  obtain ⟨shown, hshown, hleft⟩ := htime deadline hdeadline
  exact ⟨shown, by rw [Dispatched.read, hshown]; rfl, hleft⟩

end Dispatched

/-- The dispatches, behind one more happening. -/
def track (dispatches : List (Dispatched Stream)) :
    CallHappening Stream → List (Dispatched Stream)
  | ⟨.send request, answer⟩ => dispatches ++ [⟨request, answer, none⟩]
  | ⟨.dispatchControlled request _ _, answer⟩ => dispatches ++ [⟨request, answer, none⟩]
  | ⟨.readClock, .ok now⟩ => dispatches.map (Dispatched.read now)
  | _ => dispatches

/-- The dispatches of a history. -/
def dispatches (history : CallHistory Stream) : List (Dispatched Stream) := history.foldl track []

/-- The dispatches are read off a history one happening at a time. -/
theorem dispatches_append (history : CallHistory Stream)
    (happening : CallHappening Stream) :
    dispatches (history ++ [happening]) = track (dispatches history) happening := by
  rw [dispatches, List.foldl_append]
  rfl

/-- Nothing was dispatched so far. -/
def Unsent (world : CallWorld Stream Locals) : Prop := dispatches world.history = []

/-- One request was dispatched so far, and the dispatch has the property. -/
def SentOnce (p : Dispatched Stream → Prop) (world : CallWorld Stream Locals) : Prop :=
  ∃ dispatched, dispatches world.history = [dispatched] ∧ p dispatched

theorem SentOnce.imp {p q : Dispatched Stream → Prop} {world : CallWorld Stream Locals}
    (hsent : SentOnce p world) (himp : ∀ dispatched, p dispatched → q dispatched) :
    SentOnce q world := by
  obtain ⟨dispatched, hdispatches, hdispatched⟩ := hsent
  exact ⟨dispatched, hdispatches, himp dispatched hdispatched⟩

/-- A quiet operation dispatches nothing; at most it reads the clock. -/
theorem track_quiet {op : CallOp Stream} (hquiet : op.isQuiet = true) (answer : op.Answer)
    (dispatches : List (Dispatched Stream)) :
    track dispatches ⟨op, answer⟩ = dispatches ∨
      ∃ now, track dispatches ⟨op, answer⟩ = dispatches.map (Dispatched.read now) := by
  cases op with
  | send _ => cases hquiet
  | dispatchControlled _ _ _ => cases hquiet
  | readClock =>
      cases answer with
      | ok now => exact .inr ⟨now, rfl⟩
      | error error => exact .inl rfl
  | _ => exact .inl rfl

/-- No quiet operation dispatches anything. -/
theorem stable_unsent : Stable (Unsent : CallWorld Stream Locals → Prop) := by
  intro world op answer hquiet hunsent
  show dispatches (world.history ++ [⟨op, answer⟩]) = []
  rw [dispatches_append, hunsent]
  rcases track_quiet hquiet answer [] with htrack | ⟨now, htrack⟩
  · exact htrack
  · exact htrack

/-- What the clock shows later does not undo a property of the dispatch. -/
theorem stable_sentOnce {p : Dispatched Stream → Prop}
    (hread : ∀ dispatched now, p dispatched → p (dispatched.read now)) :
    Stable (SentOnce p : CallWorld Stream Locals → Prop) := by
  rintro world op answer hquiet ⟨dispatched, hdispatches, hdispatched⟩
  rw [SentOnce, dispatches_append, hdispatches]
  rcases track_quiet hquiet answer [dispatched] with htrack | ⟨now, htrack⟩
  · exact ⟨dispatched, htrack, hdispatched⟩
  · exact ⟨dispatched.read now, htrack, hread dispatched now hdispatched⟩

theorem Stable.and {P Q : CallWorld Stream Locals → Prop} (hP : Stable P) (hQ : Stable Q) :
    Stable fun world => P world ∧ Q world :=
  fun world op answer hquiet hworld =>
    ⟨hP world op answer hquiet hworld.1, hQ world op answer hquiet hworld.2⟩

theorem stable_locals (p : Locals → Prop) :
    Stable fun world : CallWorld Stream Locals => p world.locals :=
  fun _ _ _ _ hworld => hworld

/-! ## Services -/

/-- The operation may be asked for behind a send, and is no send. -/
def CallOp.isService : CallOp Stream → Bool
  | .readClock | .recordTransportFailure _ | .recordResponse _ _ | .releaseTrial _ | .emit _
  | .recordCapability _ _ _ | .acceptStatus _ => true
  | _ => false

/-- The clock, the breakers, the capability cache and the event sinks do not raise. -/
def Reliable (environment : CallEnvironment Stream) : Prop :=
  ∀ history (op : CallOp Stream) error, op.isService = true →
    environment history op ≠ .error error

section Steady

variable {P : CallWorld Stream Locals → Prop} (hstable : Stable P)

include hstable

/-- A service raises only where the services are not reliable, and keeps what is stable. -/
theorem steady_ask {op : CallOp Stream} (hservice : op.isService = true) :
    Effect.Steady (¬ Reliable environment) P (ask environment op) := by
  have hquiet : op.isQuiet = true := by
    cases op <;> first | rfl | cases hservice
  apply Ends.ask_answered
  · exact fun world value hworld _ => hstable world op _ hquiet hworld
  · intro world error hworld hanswer
    exact ⟨hstable world op _ hquiet hworld,
      fun hreliable => hreliable world.history op error hservice hanswer⟩

theorem steady_emitBreakerChange (operation : OperationId) (before after : Bool) :
    Effect.Steady (¬ Reliable environment) P
      (emitBreakerChange environment operation before after) :=
  .ite (steady_ask hstable rfl) (.pure ())

theorem steady_emitDatasetFailure (operation : OperationId) (error : Raised)
    (emitSuccess : Bool) :
    Effect.Steady (¬ Reliable environment) P
      (emitDatasetFailure environment operation error emitSuccess) :=
  .ite (steady_ask hstable rfl) (.pure ())

theorem steady_emitDatasetSuccess (operation : OperationId) (emitSuccess : Bool) :
    Effect.Steady (¬ Reliable environment) P
      (emitDatasetSuccess environment operation emitSuccess) :=
  .ite (steady_ask hstable rfl) (.pure ())

/-- Recording a status asks the breakers and the capability cache, and nothing else. -/
theorem steady_recordStatus (operation : OperationId) (statusCode : Int) (scope : String) :
    Effect.Steady (¬ Reliable environment) P
      (recordStatus environment operation statusCode scope) := by
  unfold recordStatus
  cases statusResponseClass statusCode with
  | some responseClass => exact steady_ask hstable rfl
  | none => exact .pure ()

end Steady

/-! ## Causes -/

/-- The error names the status: as its attribute, or in its metadata, which holds nothing else
unless the status is one of a refusal. -/
def NamesStatus (error : Raised) (statusCode : Int) : Prop :=
  error.statusCode = some statusCode ∨
    (error.statusCode = none ∧
      error.metadata.lookup (.text "status_code") = some (.int statusCode) ∧
      (error.metadata = [(.text "status_code", .int statusCode)] ∨
        (400 ≤ statusCode ∧ statusCode < 500)))

/-- The error that an attempt lets out when its block raises one. -/
def UDataClient.leaving (client : UDataClient) (request : Request Stream)
    (response : Option RuntimeResponse) (error : Raised) : Raised :=
  if error.errorClass = .budgetExhausted then
    client.settleDatasetBudgetError error request response
  else error

/-- The dispatch explains the error: its send raised it, or the deadline ran out behind the
response, or the error names the status of the response. -/
def Dispatched.Explains (client : UDataClient) (error : Raised) (dispatched : Dispatched Stream) :
    Prop :=
  match dispatched.answer with
  | .error raised => error = client.leaving dispatched.request none raised
  | .ok response =>
      (dispatched.Late ∧ ∃ deadline ∈ dispatched.request.deadline, ∃ now,
        error = client.leaving dispatched.request (some response)
          (deadline.exhausted .dispatch now)) ∨
      (dispatched.InTime ∧ NamesStatus error response.statusCode)

/-- A dispatch that explains an error explains it also after the clock was read again. -/
theorem Dispatched.Explains.read {error : Raised} {dispatched : Dispatched Stream}
    (hexplains : dispatched.Explains client error) (now : ℚ) :
    (dispatched.read now).Explains client error := by
  obtain ⟨request, answer, clock⟩ := dispatched
  cases answer with
  | error raised => exact hexplains
  | ok response =>
      rcases hexplains with ⟨hlate, hcause⟩ | ⟨htime, hnames⟩
      · exact .inl ⟨hlate.read now, hcause⟩
      · exact .inr ⟨htime.read now, hnames⟩

/-- One dispatch at most, and it explains the error where the services do not raise. -/
def Excused (environment : CallEnvironment Stream) (client : UDataClient) (error : Raised)
    (world : CallWorld Stream Locals) : Prop :=
  (dispatches world.history).length ≤ 1 ∧
    (Reliable environment →
      Unsent world ∨ SentOnce (Dispatched.Explains client error) world)

section Excuses

variable {error : Raised} {world : CallWorld Stream Locals} {p : Dispatched Stream → Prop}

theorem SentOnce.length_le (hsent : SentOnce p world) :
    (dispatches world.history).length ≤ 1 := by
  obtain ⟨dispatched, hdispatches, -⟩ := hsent
  rw [hdispatches]
  exact le_refl 1

theorem Excused.of_unsent (hunsent : Unsent world) : Excused environment client error world := by
  constructor
  · rw [hunsent]
    exact Nat.zero_le 1
  · exact fun _ => .inl hunsent

theorem Excused.of_explains (hsent : SentOnce (Dispatched.Explains client error) world) :
    Excused environment client error world :=
  ⟨hsent.length_le, fun _ => .inr hsent⟩

theorem Excused.of_unreliable (hlength : (dispatches world.history).length ≤ 1)
    (hunreliable : ¬ Reliable environment) : Excused environment client error world :=
  ⟨hlength, fun hreliable => (hunreliable hreliable).elim⟩

end Excuses

/-- An error stays excused while services are asked, which is what happens on its way out of the
call. -/
theorem stable_excused (error : Raised) :
    Stable (Excused environment client error : CallWorld Stream Locals → Prop) := by
  intro world op answer hquiet hworld
  constructor
  · show (dispatches (world.history ++ [⟨op, answer⟩])).length ≤ 1
    rw [dispatches_append]
    rcases track_quiet hquiet answer (dispatches world.history) with htrack | ⟨now, htrack⟩
    · rw [htrack]
      exact hworld.1
    · rw [htrack, List.length_map]
      exact hworld.1
  · intro hreliable
    rcases hworld.2 hreliable with hunsent | hexplained
    · exact .inl (stable_unsent world op answer hquiet hunsent)
    · exact .inr (stable_sentOnce (fun _ now h => h.read now) world op answer hquiet hexplained)

/-! ## Attempts -/

/-- The request was dispatched with the given answer. -/
def Answered (request : Request Stream) (answer : Except Raised RuntimeResponse)
    (dispatched : Dispatched Stream) : Prop :=
  dispatched.request = request ∧ dispatched.answer = answer

/-- The response arrived in time. -/
def Received (response : RuntimeResponse) (dispatched : Dispatched Stream) : Prop :=
  dispatched.answer = .ok response ∧ dispatched.InTime

theorem stable_received (response : RuntimeResponse) :
    Stable (SentOnce (Received response) : CallWorld Stream Locals → Prop) :=
  stable_sentOnce fun _ now h => ⟨h.1, h.2.read now⟩

/-- The response to the request arrived too late. -/
def Delayed (request : Request Stream) (response : RuntimeResponse)
    (dispatched : Dispatched Stream) : Prop :=
  Answered request (.ok response) dispatched ∧ dispatched.Late

theorem stable_delayed (request : Request Stream) (response : RuntimeResponse) :
    Stable (SentOnce (Delayed request response) : CallWorld Stream Locals → Prop) :=
  stable_sentOnce fun _ now h => ⟨h.1, h.2.read now⟩

section Attempts

variable (p : Locals → Prop)

/-- A dispatch, and nothing behind it yet. -/
theorem ends_sendRequest (controlled : Bool) (credential : Option Credential)
    (body : Option Value) (request : Request Stream) :
    Effect.Ends (fun world => Unsent world ∧ p world.locals)
      (sendRequest environment controlled credential body request :
        CallEffect Stream Locals RuntimeResponse)
      (fun response world => SentOnce (· = ⟨request, .ok response, none⟩) world ∧ p world.locals)
      (fun error world => SentOnce (· = ⟨request, .error error, none⟩) world ∧ p world.locals) := by
  have hsent : ∀ (world : CallWorld Stream Locals) happening answer, Unsent world →
      (∀ before, track before happening = before ++ [⟨request, answer, none⟩]) →
      SentOnce (· = ⟨request, answer, none⟩)
        { world with history := world.history ++ [happening] } := by
    intro world happening answer hunsent htrack
    refine ⟨_, ?_, rfl⟩
    rw [dispatches_append, hunsent, htrack, List.nil_append]
  apply Effect.Ends.ite
  · intro _
    apply Ends.ask
    · exact fun world response hworld => ⟨hsent world _ _ hworld.1 fun _ => rfl, hworld.2⟩
    · exact fun world error hworld => ⟨hsent world _ _ hworld.1 fun _ => rfl, hworld.2⟩
  · intro _
    apply Ends.ask
    · exact fun world response hworld => ⟨hsent world _ _ hworld.1 fun _ => rfl, hworld.2⟩
    · exact fun world error hworld => ⟨hsent world _ _ hworld.1 fun _ => rfl, hworld.2⟩

/-- How the check of the deadline behind a response ends when it raises. -/
def Overdue (environment : CallEnvironment Stream) (request : Request Stream)
    (response : RuntimeResponse) (error : Raised) (world : CallWorld Stream Locals) : Prop :=
  (SentOnce (Delayed request response) world ∧
    ∃ deadline ∈ request.deadline, ∃ now, error = deadline.exhausted .dispatch now) ∨
  (SentOnce (fun _ => True) world ∧ ¬ Reliable environment)

/-- The clock is read for the first time behind the dispatch. It decides here whether the response
was in time or the call ends with the error of its deadline. -/
theorem ends_checkDeadline (request : Request Stream) (response : RuntimeResponse) :
    Effect.Ends
      (fun world => SentOnce (· = ⟨request, .ok response, none⟩) world ∧ p world.locals)
      (checkDeadline environment request : CallEffect Stream Locals Unit)
      (fun _ world => SentOnce (Received response) world ∧ p world.locals)
      (fun error world => Overdue environment request response error world ∧ p world.locals) := by
  unfold checkDeadline
  cases hdeadline : request.deadline with
  | none =>
      apply Effect.Ends.pure
      rintro world ⟨hsent, hlocals⟩
      refine ⟨hsent.imp ?_, hlocals⟩
      rintro _ rfl
      exact ⟨rfl, fun deadline h => by rw [hdeadline] at h; cases h⟩
  | some deadline =>
      apply Effect.Ends.bind (R := fun left world => ∃ now, left = deadline.left now ∧
        SentOnce (· = ⟨request, .ok response, some now⟩) world ∧ p world.locals)
      · apply Effect.Ends.bind (R := fun now world =>
          SentOnce (· = ⟨request, .ok response, some now⟩) world ∧ p world.locals)
        · apply Ends.ask_answered
          · rintro world now ⟨⟨_, hdispatches, rfl⟩, hlocals⟩ _
            refine ⟨⟨_, ?_, rfl⟩, hlocals⟩
            rw [dispatches_append, hdispatches]
            rfl
          · rintro world error ⟨⟨dispatched, hdispatches, _⟩, hlocals⟩ hanswer
            refine ⟨.inr ⟨⟨dispatched, ?_, trivial⟩, fun hreliable =>
              hreliable _ _ error rfl hanswer⟩, hlocals⟩
            rw [dispatches_append, hdispatches]
            rfl
        · exact fun now => .pure fun world hworld => ⟨now, rfl, hworld⟩
      intro left
      apply Effect.Ends.ite
      · intro hleft
        apply Effect.Ends.bind (R := fun _ world =>
          SentOnce (Delayed request response) world ∧ p world.locals)
        · apply (steady_ask ((stable_delayed request response).and (stable_locals p)) rfl).weaken
          · rintro world ⟨now, rfl, hsent, hlocals⟩
            refine ⟨hsent.imp ?_, hlocals⟩
            rintro _ rfl
            exact ⟨⟨rfl, rfl⟩, deadline, hdeadline, now, rfl, hleft⟩
          · exact fun _ _ => id
          · exact fun _ world hworld =>
              ⟨.inr ⟨hworld.1.1.imp fun _ _ => trivial, hworld.2⟩, hworld.1.2⟩
        · exact fun now => .raise fun world hworld =>
            ⟨.inl ⟨hworld.1, deadline, hdeadline, now, rfl⟩, hworld.2⟩
      · intro hleft
        apply Effect.Ends.pure
        rintro world ⟨now, rfl, hsent, hlocals⟩
        refine ⟨hsent.imp ?_, hlocals⟩
        rintro _ rfl
        refine ⟨rfl, fun other hother => ⟨now, rfl, ?_⟩⟩
        rw [hdeadline] at hother
        cases hother
        exact not_le.mp hleft

end Attempts

/-- What is known when the block of an attempt raises. -/
def Interrupted (environment : CallEnvironment Stream) (request : Request Stream) (error : Raised)
    (world : CallWorld Stream RequestAttempt) : Prop :=
  (SentOnce (· = ⟨request, .error error, none⟩) world ∧ world.locals.response = none) ∨
    ∃ response, Overdue environment request response error world ∧
      world.locals.response = some response

/-- The error that leaves an attempt whose block raised is excused: the send raised it, or the
deadline had run out, or a service failed. -/
theorem Interrupted.excused (client : UDataClient) {request : Request Stream} {error : Raised}
    {world : CallWorld Stream RequestAttempt}
    (hworld : Interrupted environment request error world) :
    Excused environment client (client.leaving request world.locals.response error) world := by
  rcases hworld with ⟨hsent, hresponse⟩ | ⟨response, hoverdue | hunreliable, hresponse⟩
  · apply Excused.of_explains
    apply hsent.imp
    rintro _ rfl
    rw [hresponse]
    rfl
  · obtain ⟨hsent, deadline, hdeadline, now, rfl⟩ := hoverdue
    apply Excused.of_explains
    apply hsent.imp
    rintro ⟨_, _, clock⟩ ⟨⟨rfl, rfl⟩, hlate⟩
    exact .inl ⟨hlate, deadline, hdeadline, now, by rw [hresponse]⟩
  · exact .of_unreliable hunreliable.1.length_le hunreliable.2

/-- The attempt does not count as completed. -/
def Incomplete (world : CallWorld Stream RequestAttempt) : Prop := world.locals.completed = false

theorem stable_incomplete : Stable (Incomplete : CallWorld Stream RequestAttempt → Prop) :=
  stable_locals fun attempt : RequestAttempt => attempt.completed = false

/-- The handler of an attempt records what happened and raises, whatever it was asked to return. -/
theorem ends_handle {α : Type} {Q : α → CallWorld Stream RequestAttempt → Prop}
    (operation : OperationId) (key : CircuitKey) (before : CircuitState)
    (request : Request Stream) (error : Raised) :
    Effect.Ends (fun world => Interrupted environment request error world ∧ Incomplete world)
      (RequestAttempt.handle (α := α) environment client operation key before request error) Q
      (fun error world => Excused environment client error world ∧ Incomplete world) := by
  have hkept : ∀ world : CallWorld Stream RequestAttempt, error.errorClass ≠ .budgetExhausted →
      Interrupted environment request error world ∧ Incomplete world →
        Excused environment client error world ∧ Incomplete world := by
    intro world hclass hworld
    have hexcused := hworld.1.excused client
    rw [UDataClient.leaving, if_neg hclass] at hexcused
    exact ⟨hexcused, hworld.2⟩
  apply Effect.Ends.ite
  · intro hclass
    apply Ends.readLocals.bind
    intro attempt
    apply Effect.Ends.raise
    rintro world ⟨rfl, hworld⟩
    have hexcused := hworld.1.excused client
    rw [UDataClient.leaving, if_pos hclass] at hexcused
    exact ⟨hexcused, hworld.2⟩
  intro hclass
  apply Effect.Ends.ite
  · intro _
    have hstable : Stable fun world : CallWorld Stream RequestAttempt =>
        Excused environment client error world ∧ Incomplete world :=
      (stable_excused error).and stable_incomplete
    have hunreliable : ∀ other (world : CallWorld Stream RequestAttempt),
        (Excused environment client error world ∧ Incomplete world) ∧
          ¬ Reliable environment → Excused environment client other world ∧ Incomplete world :=
      fun _ _ hworld => ⟨.of_unreliable hworld.1.1.1 hworld.2, hworld.1.2⟩
    apply Effect.Ends.bind (R := fun _ world =>
      Excused environment client error world ∧ Incomplete world)
    · exact Ends.setLocals fun world hworld => hkept world hclass hworld
    intro _
    apply Effect.Ends.bind (R := fun _ world =>
      Excused environment client error world ∧ Incomplete world)
    · exact Effect.Ends.weaken (steady_ask hstable rfl) (fun _ => id) (fun _ _ => id) hunreliable
    intro after
    apply Effect.Ends.bind (R := fun _ world =>
      Excused environment client error world ∧ Incomplete world)
    · exact Effect.Ends.weaken (steady_emitBreakerChange hstable _ _ _) (fun _ => id)
        (fun _ _ => id) hunreliable
    · exact fun _ => .raise fun _ => id
  · exact fun _ => .raise fun world hworld => hkept world hclass hworld

/-- What a completed attempt records dispatches nothing. -/
theorem ends_record (operation : OperationId) (key : CircuitKey) (before : CircuitState)
    (response : RuntimeResponse) :
    Effect.Ends
      (fun world => SentOnce (Received response) world ∧ world.locals.response = some response)
      (RequestAttempt.record environment operation key before response)
      (fun _ world => SentOnce (Received response) world ∧
        world.locals.response = some response)
      (Excused environment client) := by
  have hstable : Stable fun world : CallWorld Stream RequestAttempt =>
      SentOnce (Received response) world ∧ world.locals.response = some response :=
    (stable_received response).and
      (stable_locals fun attempt : RequestAttempt => attempt.response = some response)
  have hsteady : Effect.Steady (¬ Reliable environment)
      (fun world => SentOnce (Received response) world ∧ world.locals.response = some response)
      (RequestAttempt.record environment operation key before response) := by
    apply (steady_ask hstable rfl).bind
    intro after
    apply Effect.Steady.bind
    · exact Ends.setLocals fun _ => id
    · exact fun _ => steady_emitBreakerChange hstable _ _ _
  exact Effect.Ends.weaken hsteady (fun _ => id) (fun _ _ => id)
    fun _ _ hworld => .of_unreliable hworld.1.1.length_le hworld.2

/-- From a state in which nothing was sent, an attempt dispatches once. -/
theorem ends_sendDatasetAttempt (operation : OperationId) (key : CircuitKey)
    (request : Request Stream) (credential : Option Credential) :
    Effect.Ends Unsent
      (sendDatasetAttempt environment client call operation key request credential)
      (fun response => SentOnce (Received response)) (Excused environment client) := by
  have hstable : Stable fun world : CallWorld Stream RequestAttempt =>
      Unsent world ∧ world.locals.response = none :=
    stable_unsent.and (stable_locals fun attempt : RequestAttempt => attempt.response = none)
  have hquiet := hstable.quiet environment
  have hbefore : ∀ {α : Type} {program : CallEffect Stream RequestAttempt α},
      Effect.Agree (Effect.SameWith fun world => Unsent world ∧ world.locals.response = none)
        program program →
      Effect.Ends (fun world => Unsent world ∧ world.locals.response = none) program
        (fun _ world => Unsent world ∧ world.locals.response = none)
        (Excused environment client) :=
    fun hagree => (Effect.keeps_iff_agree.mpr hagree).ends.weaken (fun _ => id) (fun _ _ => id)
      fun _ _ hworld => .of_unsent hworld.1
  unfold sendDatasetAttempt RequestAttempt.dispatch
  apply Effect.Ends.bind (R := fun _ world => ∃ response, SentOnce (Received response) world ∧
    world.locals.response = some response)
  · apply Effect.Ends.bind (R := fun _ world => Unsent world ∧ world.locals.response = none)
    · exact Ends.setLocals fun _ hworld => ⟨hworld, rfl⟩
    intro _
    apply (hbefore (hquiet (.inspect key) rfl)).bind
    intro before
    apply (hbefore (agree_attemptRequest hquiet _ _)).bind
    intro request
    apply (hbefore (agree_checkDeadline hquiet request)).bind
    intro _
    apply Effect.Ends.bind (R := fun _ world => Unsent world ∧
      (world.locals.response = none ∧ world.locals.completed = false))
    · exact Ends.setLocals fun _ hworld => ⟨hworld.1, hworld.2, rfl⟩
    intro _
    apply Effect.Ends.tryFinally (R := fun _ world => ∃ response,
      SentOnce (Received response) world ∧ world.locals.response = some response ∧
        world.locals.completed = true)
      (F := fun error world => Excused environment client error world ∧ Incomplete world)
    · apply Effect.Ends.tryExcept
        (F := fun error world => Interrupted environment request error world ∧ Incomplete world)
      · apply Effect.Ends.bind (R := fun _ world => ∃ response,
          SentOnce (· = ⟨request, .ok response, none⟩) world ∧
            (world.locals.response = some response ∧ world.locals.completed = false))
        · apply Effect.Ends.bind
          · exact (ends_sendRequest (fun attempt : RequestAttempt => attempt.response = none ∧
              attempt.completed = false) _ _ _ _).weaken (fun _ => id) (fun _ _ => id)
              fun error world hworld => ⟨.inl ⟨hworld.1, hworld.2.1⟩, hworld.2.2⟩
          · exact fun response => Ends.setLocals fun world hworld =>
              ⟨response, hworld.1, rfl, hworld.2.2⟩
        intro _
        apply Effect.Ends.bind (R := fun _ world => ∃ response,
          SentOnce (Received response) world ∧ (world.locals.response = some response ∧
            world.locals.completed = false))
        · apply Effect.Ends.of_exists
          exact fun response => (ends_checkDeadline (fun attempt : RequestAttempt =>
            attempt.response = some response ∧ attempt.completed = false) request response).weaken
            (fun _ => id) (fun _ _ hworld => ⟨response, hworld⟩) fun _ _ hworld =>
              ⟨.inr ⟨response, hworld.1, hworld.2.1⟩, hworld.2.2⟩
        · exact fun _ => Ends.setLocals fun world ⟨response, hsent, hlocals⟩ =>
            ⟨response, hsent, hlocals.1, rfl⟩
      · exact fun error => ends_handle operation key before request error
    · intro _
      apply Effect.Ends.of_exists
      intro response
      apply Ends.readLocals.bind
      intro attempt
      apply Effect.Ends.assume (A := attempt.completed = true ∧ attempt.response = some response)
      · rintro world ⟨rfl, -, hresponse, hcompleted⟩
        exact ⟨hcompleted, hresponse⟩
      rintro ⟨hcompleted, hresponse⟩
      rw [if_pos hcompleted, hresponse]
      exact (ends_record operation key before response).weaken
        (fun _ hworld => ⟨hworld.2.1, hworld.2.2.1⟩) (fun _ _ hworld => ⟨response, hworld⟩)
        fun _ _ => id
    · intro error
      apply Ends.readLocals.bind
      intro attempt
      apply Effect.Ends.assume (A := attempt.completed = false)
      · rintro world ⟨rfl, -, hcompleted⟩
        exact hcompleted
      intro hcompleted
      rw [if_neg (by rw [hcompleted]; exact Bool.false_ne_true)]
      exact .pure fun _ hworld => hworld.2.1
  · intro _
    apply Effect.Ends.of_exists
    intro response
    apply Ends.readLocals.bind
    intro attempt
    apply Effect.Ends.assume (A := attempt.response = some response)
    · rintro world ⟨rfl, -, hresponse⟩
      exact hresponse
    intro hresponse
    rw [hresponse]
    exact .pure fun _ hworld => hworld.2.1

/-! ## Calls -/

/-- The error for a response names its status. It has more to say only of a refused
credential. -/
theorem namesStatus_statusError (operation : OperationId) (response : RuntimeResponse) :
    NamesStatus (client.statusError operation response) response.statusCode := by
  unfold UDataClient.statusError
  by_cases hrefused : response.statusCode = 401
  · rw [if_pos hrefused]
    refine .inr ⟨rfl, ?_, .inr (by omega)⟩
    cases client.authFailureReason response.body <;> rfl
  · rw [if_neg hrefused]
    exact .inr ⟨rfl, rfl, .inl rfl⟩

/-- The call follows no redirects itself and accepts no further statuses. -/
def DatasetCall.IsPlain (call : DatasetCall Stream) : Prop :=
  call.redirectMode = false ∧ call.acceptStatus = false

/-- A status beyond the usual ones is accepted only by a call that asked for it. -/
theorem ends_acceptsStatus (response : RuntimeResponse) :
    Effect.Ends (SentOnce (Received response))
      (acceptsStatus environment call response.statusCode : CallEffect Stream Locals Bool)
      (fun accepted world => SentOnce (Received response) world ∧
        (call.IsPlain → accepted = false))
      (Excused environment client) := by
  apply Effect.Ends.ite
  · intro haccept
    apply Effect.Ends.weaken (steady_ask (stable_received response) rfl) fun _ => id
    · refine fun _ _ hworld => ⟨hworld, fun hplain => ?_⟩
      rw [hplain.2] at haccept
      cases haccept
    · exact fun _ _ hworld => .of_unreliable hworld.1.length_le hworld.2
  · exact fun _ => .pure fun _ hworld => ⟨hworld, fun _ => rfl⟩

/-- A response that passes the check of its status is a success where the call is plain. -/
theorem ends_validateStatus (operation : OperationId) (response : RuntimeResponse)
    (scope : String) :
    Effect.Ends (SentOnce (Received response))
      (validateStatus environment client call operation response scope :
        CallEffect Stream Locals Unit)
      (fun _ world => SentOnce (Received response) world ∧
        (call.IsPlain → 200 ≤ response.statusCode ∧ response.statusCode < 300))
      (Excused environment client) := by
  apply Effect.Ends.ite
  · intro hredirect
    refine .pure fun _ hworld => ⟨hworld, fun hplain => ?_⟩
    rw [hplain.1] at hredirect
    cases hredirect.1
  intro _
  apply (ends_acceptsStatus response).bind
  intro accepted
  apply Effect.Ends.ite
  · intro haccepted
    refine .pure fun _ hworld => ⟨hworld.1, fun hplain => ?_⟩
    rw [hworld.2 hplain] at haccepted
    cases haccepted
  intro _
  apply Effect.Ends.ite
  · exact fun hsuccess => .pure fun _ hworld => ⟨hworld.1, fun _ => hsuccess⟩
  intro _
  apply Effect.Ends.bind (R := fun _ => SentOnce (Received response))
  · exact Effect.Ends.weaken (steady_recordStatus (stable_received response) _ _ _)
      (fun _ hworld => hworld.1) (fun _ _ => id)
      fun _ _ hworld => .of_unreliable hworld.1.length_le hworld.2
  · refine fun _ => .raise fun world hworld => .of_explains (hworld.imp ?_)
    rintro ⟨request, _, clock⟩ ⟨rfl, htime⟩
    exact .inr ⟨htime, namesStatus_statusError operation _⟩

/-- What is decoded is the response, and an error names its status. -/
theorem decodeBody_spec (client : UDataClient) (call : DatasetCall Stream)
    (operation : OperationId) (response : RuntimeResponse) :
    (∀ result, client.decodeBody call operation response = .ok result →
      result.response = response ∧ result.statusCode = response.statusCode) ∧
    (∀ error, client.decodeBody call operation response = .error error →
      NamesStatus error response.statusCode) := by
  unfold UDataClient.decodeBody
  constructor
  · intro result hresult
    split_ifs at hresult
    · split at hresult <;> cases hresult
      exact ⟨rfl, rfl⟩
    · cases hresult
      exact ⟨rfl, rfl⟩
    · cases hresult
      exact ⟨rfl, rfl⟩
    · split at hresult <;> cases hresult
      exact ⟨rfl, rfl⟩
  · intro error herror
    split_ifs at herror
    · split at herror <;> cases herror
      · exact .inl rfl
      · exact .inl rfl
    · split at herror <;> cases herror
      exact .inl rfl

/-- What a call returns behind a response that arrived in time. -/
def Decoded (call : DatasetCall Stream) (response : RuntimeResponse) (result : CallResult)
    (world : CallWorld Stream Locals) : Prop :=
  SentOnce (Received response) world ∧ result.response = response ∧
    result.statusCode = response.statusCode ∧
    (call.IsPlain → 200 ≤ response.statusCode ∧ response.statusCode < 300)

/-- The decoding of a response returns that response with its own status, or raises an error that
its one dispatch explains. -/
theorem ends_decodeDatasetResponse (operation : OperationId) (response : RuntimeResponse)
    (maxResponseBytes : Option Int) (scope : String) :
    Effect.Ends (SentOnce (Received response))
      (decodeDatasetResponse environment client call operation response maxResponseBytes scope :
        CallEffect Stream Locals CallResult)
      (Decoded call response) (Excused environment client) := by
  have hexplains : ∀ error, NamesStatus error response.statusCode →
      ∀ world : CallWorld Stream Locals, SentOnce (Received response) world →
        Excused environment client error world := by
    intro error hnames world hworld
    apply Excused.of_explains
    apply hworld.imp
    rintro ⟨request, _, clock⟩ ⟨rfl, htime⟩
    exact .inr ⟨htime, hnames⟩
  obtain ⟨hok, herror⟩ := decodeBody_spec client call operation response
  apply (ends_validateStatus operation response scope).bind
  intro _
  apply Effect.Ends.ite
  · exact fun _ => .raise fun world hworld => hexplains _ (.inl rfl) world hworld.1
  intro _
  apply Effect.Ends.ofExcept
  · intro result hresult world hworld
    obtain ⟨hresponse, hstatus⟩ := hok result hresult
    exact ⟨hworld.1, hresponse, hstatus, hworld.2⟩
  · exact fun error hraised world hworld => hexplains _ (herror error hraised) world hworld.1

/-- The handler around the loop and around the decoder lets the same error out. -/
theorem ends_emitAndRaise {α : Type} {Q : α → CallWorld Stream Locals → Prop}
    (operation : OperationId) (emitSuccess : Bool) (error : Raised) :
    Effect.Ends (Excused environment client error)
      (if error.isException = true then do
          emitDatasetFailure environment operation error emitSuccess
          Effect.raise error
        else Effect.raise error : CallEffect Stream Locals α) Q
      (Excused environment client) := by
  apply Effect.Ends.ite
  · intro _
    apply Effect.Ends.bind (R := fun _ => Excused environment client error)
    · exact Effect.Ends.weaken (steady_emitDatasetFailure (stable_excused error) _ _ _)
        (fun _ => id) (fun _ _ => id) fun _ _ hworld => .of_unreliable hworld.1.1 hworld.2
    · exact fun _ => .raise fun _ => id
  · exact fun _ => .raise fun _ => id

/-- A trial that was admitted is released behind the attempt. This dispatches nothing, and raises
only where the services are not reliable. -/
theorem ends_release (key : CircuitKey) {P : CallWorld Stream RequestAttempt → Prop}
    (hstable : Stable P) (hlength : ∀ world, P world → (dispatches world.history).length ≤ 1) :
    Effect.Ends P (RequestAttempt.release environment key) (fun _ => P)
      (Excused environment client) := by
  apply Ends.readLocals.bind
  intro attempt
  apply Effect.Ends.ite
  · exact fun _ => Effect.Ends.weaken (steady_ask hstable rfl) (fun _ hworld => hworld.2)
      (fun _ _ => id) fun _ world hworld => .of_unreliable (hlength world hworld.1) hworld.2
  · exact fun _ => .pure fun _ hworld => hworld.2

/-- The loop around attempts that may not be repeated dispatches once. -/
theorem ends_datasetRetry (deadline : DeadlineMonitor) (operation : OperationId)
    (key : CircuitKey) (request : Request Stream) (credential : Option Credential)
    (hrefused : (retryLoop client call deadline).idempotency.allowsRetry = false) :
    Effect.Ends Unsent
      (datasetRetry environment call operation key
        ((retryLoop client call deadline).run (readClock environment)
          (sendDatasetAttempt environment client call operation key request credential)
          (sleep environment)))
      (fun response => SentOnce (Received response)) (Excused environment client) := by
  rw [RetryLoop.run_of_refused _ _ hrefused]
  apply Effect.Ends.tryFinally (R := fun response => SentOnce (Received response))
    (F := Excused environment client)
  · apply Effect.Ends.tryExcept (F := Excused environment client)
    · apply Effect.Ends.bind (R := fun _ => Unsent)
      · exact (Effect.keeps_iff_agree.mpr
          (agree_assertDispatchable (stable_unsent.quiet environment) deadline)).ends.weaken
            (fun _ => id) (fun _ _ => id) fun _ _ => .of_unsent
      · exact fun _ => ends_sendDatasetAttempt operation key request credential
    · exact fun error => ends_emitAndRaise operation call.emitSuccess error
  · exact fun response => ends_release key (stable_received response) fun _ h => h.length_le
  · exact fun error => ends_release key (stable_excused error) fun _ h => h.1

/-- Behind its attempt a call has one dispatch, and it ends with the response of that dispatch or
with an error that the dispatch explains. -/
theorem ends_finishDatasetCall (operation : OperationId) (response : RuntimeResponse)
    (request : Request Stream) (scope : String) :
    Effect.Ends (SentOnce (Received response))
      (finishDatasetCall environment client call operation response request scope)
      (Decoded call response) (Excused environment client) := by
  apply Effect.Ends.bind
  · exact (ends_decodeDatasetResponse operation response _ scope).tryExcept fun error =>
      ends_emitAndRaise operation call.emitSuccess error
  intro result
  have hstable : Stable (Decoded call response result : CallWorld Stream RequestAttempt → Prop) :=
    (stable_received response).and fun _ _ _ _ => id
  apply Effect.Ends.bind (R := fun _ => Decoded call response result)
  · exact Effect.Ends.weaken (steady_emitDatasetSuccess hstable _ _) (fun _ => id) (fun _ _ => id)
      fun _ _ hworld => .of_unreliable hworld.1.1.length_le hworld.2
  · exact fun _ => .pure fun _ => id

/-- A call that may not be repeated dispatches once at most, and returns what it received. -/
theorem ends_datasetCall (environment : CallEnvironment Stream) (client : UDataClient)
    (call : DatasetCall Stream)
    (hrefused : (datasetRetryIdempotency call.formBody call.idempotencyPolicy call.method
      call.files).allowsRetry = false) :
    Effect.Ends Unsent (datasetCall environment client call)
      (fun result => Decoded call result.response result) (Excused environment client) := by
  unfold datasetCall
  have hunsent : Stable (Unsent : CallWorld Stream RequestAttempt → Prop) := stable_unsent
  have hquiet := hunsent.quiet environment
  apply Effect.Ends.bind (R := fun _ => Unsent)
  · exact (Effect.keeps_iff_agree.mpr (agree_prepareDatasetCall hquiet)).ends.weaken
      (fun _ => id) (fun _ _ => id) fun _ _ => .of_unsent
  rintro ⟨operation, deadline, credential, scope, request⟩
  have hadmission : ∀ key, Effect.Keeps Unsent (admitTrial environment key :
      CallEffect Stream RequestAttempt Bool) := by
    intro key world hunsent
    rw [admitTrial, ask_run]
    show dispatches (world.history ++ [_]) = []
    rw [dispatches_append, hunsent]
    rfl
  apply Effect.Ends.bind (R := fun _ => Unsent)
  · exact (Effect.keeps_iff_agree.mpr (agree_admitRequest hquiet
      (fun key => Effect.keeps_iff_agree.mp (hadmission key)) operation request)).ends.weaken
        (fun _ => id) (fun _ _ => id) fun _ _ => .of_unsent
  intro key
  apply Effect.Ends.bind (R := fun _ => Unsent)
  · exact Ends.setLocals fun _ => id
  intro _
  apply (ends_datasetRetry deadline operation key request credential hrefused).bind
  intro response
  apply (ends_finishDatasetCall operation response request scope).weaken (fun _ => id)
  · intro result world hworld
    rw [hworld.2.1]
    exact hworld
  · exact fun _ _ => id

end DataSluice.Catalog.Udata
