/-
# Rules for the methods of a uData client

The methods that both request paths call ask for operations and change no variables. So each
of them ends alike from states in a relation, when the operations that are quiet do: those
that neither admit a trial nor send. Comparing a program with itself, in the same state, gives
what it keeps.
-/

import DataSluice.Catalog.UdataCall

namespace DataSluice.Catalog.Udata

open DataSluice.Lib DataSluice.Domain DataSluice.Runtime DataSluice.Runtime.Transport

variable {Stream : Type} {environment : CallEnvironment Stream} {client : UDataClient}
  {call : DatasetCall Stream}

/-- The operation neither admits a trial nor sends a request. -/
def CallOp.isQuiet : CallOp Stream → Bool
  | .admitTrial _ | .send _ | .dispatchControlled _ _ _ => false
  | _ => true

/-- From related states the quiet operations end alike. -/
def Quiet {Locals Locals' : Type} (environment : CallEnvironment Stream)
    (R : CallWorld Stream Locals → CallWorld Stream Locals' → Prop) : Prop :=
  ∀ op : CallOp Stream, op.isQuiet = true →
    Effect.Agree R (ask environment op) (ask environment op)

/-! ## Agreement -/

section Rules

variable {Locals Locals' : Type} {R : CallWorld Stream Locals → CallWorld Stream Locals' → Prop}
  (hquiet : Quiet environment R)

include hquiet

/-- A clock that is read shows the same in related states. From here on each lemma is about one
function of the client, and is put together from those about the functions it calls. -/
theorem agree_readClock :
    Effect.Agree R (readClock environment : CallEffect Stream Locals ℚ)
      (readClock environment) := hquiet _ rfl

theorem agree_assertDispatchable (deadline : DeadlineMonitor) :
    Effect.Agree R
      (deadline.assertDispatchable (readClock environment : CallEffect Stream Locals ℚ))
      (deadline.assertDispatchable (readClock environment)) :=
  RetryLoop.agree_assertDispatchable (agree_readClock hquiet) deadline

/-- The check of the deadline reads the clock once, and raises on the same answers. -/
theorem agree_checkDeadline (request : Request Stream) :
    Effect.Agree R (checkDeadline environment request : CallEffect Stream Locals Unit)
      (checkDeadline environment request) := by
  unfold checkDeadline
  cases request.deadline with
  | none => exact .pure ()
  | some deadline => exact agree_assertDispatchable hquiet deadline

theorem agree_emitBreakerChange (operation : OperationId) (before after : Bool) :
    Effect.Agree R
      (emitBreakerChange environment operation before after : CallEffect Stream Locals Unit)
      (emitBreakerChange environment operation before after) :=
  .ite (hquiet _ rfl) (.pure ())

theorem agree_emitDatasetFailure (operation : OperationId) (error : Raised) (emitSuccess : Bool) :
    Effect.Agree R
      (emitDatasetFailure environment operation error emitSuccess : CallEffect Stream Locals Unit)
      (emitDatasetFailure environment operation error emitSuccess) :=
  .ite (hquiet _ rfl) (.pure ())

theorem agree_emitDatasetSuccess (operation : OperationId) (emitSuccess : Bool) :
    Effect.Agree R
      (emitDatasetSuccess environment operation emitSuccess : CallEffect Stream Locals Unit)
      (emitDatasetSuccess environment operation emitSuccess) :=
  .ite (hquiet _ rfl) (.pure ())

theorem agree_attemptRequest (callable : Bool) (request : Request Stream) :
    Effect.Agree R
      (attemptRequest environment callable request : CallEffect Stream Locals (Request Stream))
      (attemptRequest environment callable request) :=
  .ite ((hquiet _ rfl).bind fun _ => .ofExcept _) (.pure request)

/-- The credential of a call is resolved alike, be it left out, the one of the call, or the
refreshed one of the client. -/
theorem agree_resolvedCredential :
    Effect.Agree R
      (resolvedCredential environment call : CallEffect Stream Locals (Option Credential))
      (resolvedCredential environment call) := by
  apply Effect.Agree.ite (.pure none)
  cases call.credential with
  | some credential => exact .pure (some credential)
  | none => exact hquiet _ rfl

/-- The deadline of a call is set alike: it is the one of the call, or starts where the clock
stands now. -/
theorem agree_callDeadline :
    Effect.Agree R
      (callDeadline environment client call : CallEffect Stream Locals DeadlineMonitor)
      (callDeadline environment client call) := by
  unfold callDeadline
  cases call.deadline with
  | some deadline => exact .pure deadline
  | none => exact (agree_readClock hquiet).bind fun _ => .pure _

theorem agree_changeScope (known scope : String) :
    Effect.Agree R
      (changeScope environment known scope : CallEffect Stream Locals Unit)
      (changeScope environment known scope) :=
  .ite ((hquiet _ rfl).bind fun _ => (hquiet _ rfl).bind fun _ => hquiet _ rfl) (.pure ())

theorem agree_knownScope :
    Effect.Agree R (knownScope environment : CallEffect Stream Locals String)
      (knownScope environment) := hquiet _ rfl

/-- The scope of a credential is compared with the known one and changed alike. -/
theorem agree_refreshCredentialScope (credential : Option Credential) :
    Effect.Agree R
      (refreshCredentialScope environment credential : CallEffect Stream Locals String)
      (refreshCredentialScope environment credential) := by
  apply (agree_knownScope hquiet).bind
  intro known
  exact (agree_changeScope hquiet _ _).bind fun _ => .pure _

/-- The admission of a request agrees as soon as the admission of a trial does, the one operation
in it that is not quiet. -/
theorem agree_admitRequest
    (hadmission : ∀ key, Effect.Agree R (admitTrial environment key) (admitTrial environment key))
    (operation : OperationId) (request : Request Stream) :
    Effect.Agree R
      (admitRequest environment client operation request : CallEffect Stream Locals CircuitKey)
      (admitRequest environment client operation request) := by
  apply (Effect.Agree.ofExcept _).bind
  intro key
  apply (hadmission key).bind
  exact fun admitted => .ite (.pure key) ((hquiet _ rfl).bind fun _ => .raise _)

/-- What is recorded of a status depends on nothing but the status and the answers to quiet
operations. -/
theorem agree_recordStatus (operation : OperationId) (statusCode : Int) (scope : String) :
    Effect.Agree R
      (recordStatus environment operation statusCode scope : CallEffect Stream Locals Unit)
      (recordStatus environment operation statusCode scope) := by
  unfold recordStatus
  cases statusResponseClass statusCode with
  | some responseClass => exact hquiet _ rfl
  | none => exact .pure ()

theorem agree_acceptsStatus (statusCode : Int) :
    Effect.Agree R
      (acceptsStatus environment call statusCode : CallEffect Stream Locals Bool)
      (acceptsStatus environment call statusCode) :=
  .ite (hquiet _ rfl) (.pure false)

/-- A status is accepted or refused alike, with the same error. -/
theorem agree_validateStatus (operation : OperationId) (response : RuntimeResponse)
    (scope : String) :
    Effect.Agree R
      (validateStatus environment client call operation response scope :
        CallEffect Stream Locals Unit)
      (validateStatus environment client call operation response scope) := by
  apply Effect.Agree.ite (.pure ())
  apply (agree_acceptsStatus hquiet _).bind
  intro accepted
  apply Effect.Agree.ite (.pure ())
  apply Effect.Agree.ite (.pure ())
  exact (agree_recordStatus hquiet _ _ _).bind fun _ => .raise _

/-- The decoding of a response ends alike. It is the last function of a call, and quiet as a whole.
-/
theorem agree_decodeDatasetResponse (operation : OperationId) (response : RuntimeResponse)
    (maxResponseBytes : Option Int) (scope : String) :
    Effect.Agree R
      (decodeDatasetResponse environment client call operation response maxResponseBytes scope :
        CallEffect Stream Locals CallResult)
      (decodeDatasetResponse environment client call operation response maxResponseBytes scope) := by
  apply (agree_validateStatus hquiet _ _ _).bind
  exact fun _ => .ite (.raise _) (.ofExcept _)

/-- The handler that both paths put around the loop and around the decoder. -/
theorem agree_emitAndRaise {α : Type} (operation : OperationId) (emitSuccess : Bool)
    (error : Raised) :
    Effect.Agree R
      (if error.isException = true then do
          emitDatasetFailure environment operation error emitSuccess
          Effect.raise error
        else Effect.raise error : CallEffect Stream Locals α)
      (if error.isException = true then do
          emitDatasetFailure environment operation error emitSuccess
          Effect.raise error
        else Effect.raise error) :=
  .ite ((agree_emitDatasetFailure hquiet _ _ _).bind fun _ => .raise error) (.raise error)

end Rules

/-- The synchronous path up to the admission of its request. -/
theorem agree_prepareDatasetCall
    {R : CallWorld Stream RequestAttempt → CallWorld Stream RequestAttempt → Prop}
    (hquiet : Quiet environment R) :
    Effect.Agree R (prepareDatasetCall environment client call)
      (prepareDatasetCall environment client call) := by
  unfold prepareDatasetCall
  apply Effect.Agree.bind
  · unfold datasetDeadline
    cases call.unknownOverrides with
    | some names => exact .raise _
    | none =>
        apply Effect.Agree.ite (.raise _)
        apply (Effect.Agree.ofExcept _).bind
        intro operation
        apply (agree_callDeadline hquiet).bind
        intro deadline
        exact (agree_assertDispatchable hquiet _).bind fun _ => .pure _
  intro prepared
  apply Effect.Agree.bind
  · exact hquiet _ rfl
  intro _
  apply (agree_resolvedCredential hquiet).bind
  intro credential
  apply (agree_refreshCredentialScope hquiet credential).bind
  intro scope
  apply Effect.Agree.bind
  · exact hquiet (.resolve prepared.1 scope) rfl
  intro effective
  apply (Effect.Agree.ofExcept _).bind
  intro _
  apply Effect.Agree.bind
  · exact (agree_assertDispatchable hquiet _).bind fun _ => .ofExcept _
  · exact fun _ => .pure _

/-! ## What is kept -/

section Keep

variable {Locals : Type} {P : CallWorld Stream Locals → Prop}

/-- The property does not depend on quiet operations. -/
def Stable (P : CallWorld Stream Locals → Prop) : Prop :=
  ∀ world (op : CallOp Stream) (answer : op.Answer), op.isQuiet = true → P world →
    P { world with history := world.history ++ [⟨op, answer⟩] }

/-- A property that does not depend on quiet operations is kept by them, and they agree with
themselves where it holds. -/
theorem Stable.quiet (hstable : Stable P) (environment : CallEnvironment Stream) :
    Quiet environment (Effect.SameWith P) := by
  intro op hop
  apply Effect.keeps_iff_agree.mp
  intro world hworld
  rw [ask_run]
  exact hstable world op _ hop hworld

end Keep

end DataSluice.Catalog.Udata
