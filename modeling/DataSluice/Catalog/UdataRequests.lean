/-
# Where the requests of a call go

A call makes one request, and sends it in each of its attempts: with the method of the call,
to the URL of its path behind the origin of the client. A callable body is asked for again in
each attempt and changes neither. So whatever a call dispatches, and however often, goes where
the call says.

A call that returns, and that may not be repeated, dispatched exactly one such request and
received a response to it. What is shown of the synchronous path is carried over to the
asynchronous one.
-/

import DataSluice.Catalog.UdataPaths

namespace DataSluice.Catalog.Udata

open DataSluice.Lib DataSluice.Lib.Url DataSluice.Domain DataSluice.Runtime
open DataSluice.Runtime.Transport

variable {Stream Locals : Type} {environment : CallEnvironment Stream} {client : UDataClient}
  {call : DatasetCall Stream} {method url : Text} {request next : Request Stream}

/-! ## Requests -/

/-- The request goes to the URL with the method. -/
structure Addressed (method url : Text) (request : Request Stream) : Prop where
  method_eq : request.method = method
  url_eq : request.url = url

/-- The constructor keeps the method and the URL. -/
theorem addressed_create {headers : Headers} {body : Option (List UInt8)}
    {files : List (UploadPart Stream)} {policy : RedirectPolicy} {limit : Option Int}
    {deadline : Option DeadlineMonitor}
    (hcreate : UDataClient.raiseValueError
      (RuntimeRequest.create method url headers body files policy limit deadline) = .ok request) :
    Addressed method url request := by
  unfold UDataClient.raiseValueError RuntimeRequest.create at hcreate
  split at hcreate
  · next created hcreated =>
      cases hcreate
      split_ifs at hcreated
      cases hcreated
      exact ⟨rfl, rfl⟩
  · cases hcreate

theorem addressed_newRequest {operation : OperationId} {credential : Option Credential}
    {deadline : DeadlineMonitor}
    (hrequest : client.newRequest call operation credential deadline = .ok request) :
    Addressed call.method (client.origin ++ call.path) request := by
  unfold UDataClient.newRequest at hrequest
  cases hbody : client.datasetBody call operation with
  | error error =>
      rw [hbody] at hrequest
      cases hrequest
  | ok body =>
      rw [hbody] at hrequest
      exact addressed_create hrequest

/-- Another body does not change where a request goes. -/
theorem Addressed.withBody (haddressed : Addressed method url request) {body : List UInt8}
    (hnext : UDataClient.withBody request body = .ok next) : Addressed method url next := by
  have hcreated := addressed_create hnext
  exact ⟨hcreated.method_eq.trans haddressed.method_eq, hcreated.url_eq.trans haddressed.url_eq⟩

/-- Whatever was dispatched so far goes to the URL. -/
def AllAddressed (method url : Text) (history : CallHistory Stream) : Prop :=
  ∀ dispatched ∈ dispatches history, Addressed method url dispatched.request

/-- What was dispatched so far goes to the URL, in whatever state the program is. -/
def AddressedSoFar (method url : Text) (world : CallWorld Stream Locals) : Prop :=
  AllAddressed method url world.history

theorem stable_addressedSoFar :
    Stable (AddressedSoFar method url : CallWorld Stream Locals → Prop) := by
  intro world op answer hquiet hworld
  show AllAddressed method url (world.history ++ [⟨op, answer⟩])
  rw [AllAddressed, dispatches_append]
  rcases track_quiet hquiet answer (dispatches world.history) with htrack | ⟨now, htrack⟩
  · rw [htrack]
    exact hworld
  · rw [htrack]
    intro dispatched hdispatched
    obtain ⟨before, hbefore, hread⟩ := List.mem_map.mp hdispatched
    rw [← hread]
    exact hworld before hbefore

/-! ## Attempts -/

/-- A send adds a request that goes to the URL. -/
theorem addressed_sendRequest (haddressed : Addressed method url request) (controlled : Bool)
    (credential : Option Credential) (body : Option Value) :
    Effect.Keeps (AddressedSoFar method url)
      (sendRequest environment controlled credential body request :
        CallEffect Stream Locals RuntimeResponse) := by
  have hsent : ∀ (world : CallWorld Stream Locals) happening answer,
      AddressedSoFar method url world →
      (∀ before, track before happening = before ++ [⟨request, answer, none⟩]) →
      AllAddressed method url (world.history ++ [happening]) := by
    intro world happening answer hworld htrack
    rw [AllAddressed, dispatches_append, htrack]
    intro dispatched hdispatched
    rcases List.mem_append.mp hdispatched with hbefore | hlast
    · exact hworld dispatched hbefore
    · rw [List.mem_singleton.mp hlast]
      exact haddressed
  apply Effect.Ends.keeps
  apply Effect.Ends.ite
  · intro _
    apply Ends.ask
    · exact fun world response hworld => hsent world _ _ hworld fun _ => rfl
    · exact fun world error hworld => hsent world _ _ hworld fun _ => rfl
  · intro _
    apply Ends.ask
    · exact fun world response hworld => hsent world _ _ hworld fun _ => rfl
    · exact fun world error hworld => hsent world _ _ hworld fun _ => rfl

/-- The request of an attempt goes where the request of the call goes. -/
theorem addressed_attemptRequest (haddressed : Addressed method url request) (callable : Bool) :
    Effect.Ends (AddressedSoFar method url)
      (attemptRequest environment callable request : CallEffect Stream Locals (Request Stream))
      (fun next world => AddressedSoFar method url world ∧ Addressed method url next)
      (fun _ => AddressedSoFar method url) := by
  have hstable : Stable (AddressedSoFar method url : CallWorld Stream Locals → Prop) :=
    stable_addressedSoFar
  have hquiet := hstable.quiet environment
  apply Effect.Ends.ite
  · intro _
    apply Effect.Ends.bind (R := fun _ => AddressedSoFar method url)
    · exact (Effect.keeps_iff_agree.mpr (hquiet .formBody rfl)).ends
    intro body
    apply Effect.Ends.ofExcept
    · exact fun next hnext world hworld => ⟨hworld, haddressed.withBody hnext⟩
    · exact fun _ _ _ => id
  · exact fun _ => .pure fun world hworld => ⟨hworld, haddressed⟩

/-- The clauses of `except` dispatch nothing. -/
theorem addressed_handle {α : Type} (operation : OperationId) (key : CircuitKey)
    (before : CircuitState) (request : Request Stream) (error : Raised) :
    Effect.Keeps (AddressedSoFar method url)
      (RequestAttempt.handle (α := α) environment client operation key before request error) := by
  have hstable : Stable (AddressedSoFar method url : CallWorld Stream RequestAttempt → Prop) :=
    stable_addressedSoFar
  have hquiet := hstable.quiet environment
  apply Effect.Ends.keeps
  apply Effect.Ends.ite
  · intro _
    apply Ends.readLocals.bind
    exact fun attempt => .raise fun world hworld => hworld.2
  intro _
  apply Effect.Ends.ite
  · intro _
    apply Effect.Ends.bind (R := fun _ => AddressedSoFar method url)
    · exact Ends.setLocals fun _ => id
    intro _
    apply Effect.Ends.bind (R := fun _ => AddressedSoFar method url)
    · exact (Effect.keeps_iff_agree.mpr (hquiet (.recordTransportFailure key) rfl)).ends
    intro after
    apply (Effect.keeps_iff_agree.mpr (agree_emitBreakerChange hquiet _ _ _)).ends.bind
    exact fun _ => .raise fun _ => id
  · exact fun _ => .raise fun _ => id

/-- What a completed attempt records dispatches nothing. -/
theorem addressed_record (operation : OperationId) (key : CircuitKey) (before : CircuitState)
    (response : RuntimeResponse) :
    Effect.Keeps (AddressedSoFar method url)
      (RequestAttempt.record environment operation key before response) := by
  have hstable : Stable (AddressedSoFar method url : CallWorld Stream RequestAttempt → Prop) :=
    stable_addressedSoFar
  have hquiet := hstable.quiet environment
  apply Effect.Keeps.bind
  · exact Effect.keeps_iff_agree.mpr (hquiet (.recordResponse key _) rfl)
  intro after
  apply Effect.Keeps.bind
  · exact fun _ => id
  · exact fun _ => Effect.keeps_iff_agree.mpr (agree_emitBreakerChange hquiet _ _ _)

/-- An attempt dispatches requests that go to the URL only. -/
theorem addressed_sendDatasetAttempt (haddressed : Addressed method url request)
    (operation : OperationId) (key : CircuitKey) (credential : Option Credential) :
    Effect.Keeps (AddressedSoFar method url)
      (sendDatasetAttempt environment client call operation key request credential) := by
  have hstable : Stable (AddressedSoFar method url : CallWorld Stream RequestAttempt → Prop) :=
    stable_addressedSoFar
  have hquiet := hstable.quiet environment
  have hread : Effect.Keeps (AddressedSoFar method url)
      (readLocals : CallEffect Stream RequestAttempt RequestAttempt) := fun _ => id
  unfold sendDatasetAttempt RequestAttempt.dispatch
  apply Effect.Keeps.bind
  · apply Effect.Ends.keeps
    apply Effect.Ends.bind (R := fun _ => AddressedSoFar method url)
    · exact Ends.setLocals fun _ => id
    intro _
    apply (Effect.keeps_iff_agree.mpr (hquiet (.inspect key) rfl)).ends.bind
    intro before
    apply (addressed_attemptRequest haddressed _).bind
    intro request
    apply Effect.Ends.assume fun _ hworld => hworld.2
    intro haddressed
    apply Effect.Ends.weaken (P := AddressedSoFar method url)
      (Q := fun _ => AddressedSoFar method url) (E := fun _ => AddressedSoFar method url) ?_
      (fun _ hworld => hworld.1) (fun _ _ => id) (fun _ _ => id)
    apply Effect.Keeps.ends
    have hdeadline : Effect.Keeps (AddressedSoFar method url)
        (checkDeadline environment request : CallEffect Stream RequestAttempt Unit) :=
      Effect.keeps_iff_agree.mpr (agree_checkDeadline hquiet request)
    apply hdeadline.bind
    intro _
    apply Effect.Keeps.bind
    · exact fun _ => id
    intro _
    apply Effect.Keeps.tryFinally
    · apply Effect.Keeps.tryExcept
      · apply Effect.Keeps.bind
        · apply (addressed_sendRequest haddressed _ _ _).bind
          exact fun response _ => id
        intro _
        apply hdeadline.bind
        exact fun _ _ => id
      · exact fun error => addressed_handle operation key before request error
    · apply hread.bind
      intro attempt
      split
      · cases attempt.response with
        | none => exact .raise _
        | some response => exact addressed_record operation key before response
      · exact .pure ()
  · intro _
    apply hread.bind
    intro attempt
    cases attempt.response with
    | some response => exact .pure response
    | none => exact .raise _

/-! ## Calls -/

/-- The request that a call prepares goes to its path. -/
theorem addressed_prepareDatasetCall (environment : CallEnvironment Stream)
    (client : UDataClient) (call : DatasetCall Stream) :
    Effect.Ends (fun _ => True) (prepareDatasetCall environment client call)
      (fun prepared _ => Addressed call.method (client.origin ++ call.path) prepared.request)
      (fun _ _ => True) := by
  unfold prepareDatasetCall
  apply Effect.Ends.anything.bind
  intro prepared
  apply Effect.Ends.anything.bind
  intro _
  apply Effect.Ends.anything.bind
  intro credential
  apply Effect.Ends.anything.bind
  intro scope
  apply Effect.Ends.anything.bind
  intro effective
  apply Effect.Ends.anything.bind
  intro _
  apply Effect.Ends.bind
    (R := fun request _ => Addressed call.method (client.origin ++ call.path) request)
  · unfold datasetRequest
    apply Effect.Ends.anything.bind
    intro _
    apply Effect.Ends.ofExcept
    · exact fun request hrequest _ _ => addressed_newRequest hrequest
    · exact fun _ _ _ => id
  · exact fun request => .pure fun _ => id

/-- Whatever a call dispatches goes to its path. -/
theorem addressed_datasetCall (environment : CallEnvironment Stream) (client : UDataClient)
    (call : DatasetCall Stream) :
    Effect.Keeps (AddressedSoFar call.method (client.origin ++ call.path))
      (datasetCall environment client call) := by
  have hstable : Stable (AddressedSoFar call.method (client.origin ++ call.path) :
      CallWorld Stream RequestAttempt → Prop) := stable_addressedSoFar
  have hquiet := hstable.quiet environment
  have hadmission : ∀ key, Effect.Keeps (AddressedSoFar call.method (client.origin ++ call.path))
      (admitTrial environment key : CallEffect Stream RequestAttempt Bool) := by
    intro key world hworld
    rw [admitTrial, ask_run]
    show AllAddressed _ _ (world.history ++ [_])
    rw [AllAddressed, dispatches_append]
    exact hworld
  apply Effect.Ends.keeps
  unfold datasetCall
  apply Effect.Ends.bind (R := fun prepared world =>
    AddressedSoFar call.method (client.origin ++ call.path) world ∧
      Addressed call.method (client.origin ++ call.path) prepared.request)
  · have hprepared : Effect.Keeps (AddressedSoFar call.method (client.origin ++ call.path))
        (prepareDatasetCall environment client call) :=
      Effect.keeps_iff_agree.mpr (agree_prepareDatasetCall hquiet)
    have hkept := hprepared.ends
    apply (hkept.and ((addressed_prepareDatasetCall environment client call).weaken
      (fun _ _ => trivial) (fun _ _ => id) fun _ _ => id)).weaken (fun _ => id) (fun _ _ => id)
    exact fun _ _ hworld => hworld.1
  rintro ⟨operation, deadline, credential, scope, request⟩
  apply Effect.Ends.assume fun _ hworld => hworld.2
  intro haddressed
  apply Effect.Ends.weaken (P := AddressedSoFar call.method (client.origin ++ call.path))
    (Q := fun _ => AddressedSoFar call.method (client.origin ++ call.path))
    (E := fun _ => AddressedSoFar call.method (client.origin ++ call.path)) ?_
    (fun _ hworld => hworld.1) (fun _ _ => id) (fun _ _ => id)
  apply Effect.Keeps.ends
  apply Effect.Keeps.bind
  · exact Effect.keeps_iff_agree.mpr (agree_admitRequest hquiet
      (fun key => Effect.keeps_iff_agree.mp (hadmission key)) operation request)
  intro key
  apply Effect.Keeps.bind
  · exact fun _ => id
  intro _
  apply Effect.Keeps.bind
  · have hloop : Effect.Keeps (AddressedSoFar call.method (client.origin ++ call.path))
        ((retryLoop client call deadline).run (readClock environment)
          (sendDatasetAttempt environment client call operation key request credential)
          (sleep environment)) :=
      Effect.keeps_iff_agree.mpr (RetryLoop.agree_run (agree_readClock hquiet)
        (Effect.keeps_iff_agree.mp (addressed_sendDatasetAttempt haddressed operation key
          credential)) fun delay => hquiet (.sleep delay) rfl)
    apply Effect.Keeps.tryFinally
    · exact hloop.tryExcept fun error => Effect.keeps_iff_agree.mpr
        (agree_emitAndRaise hquiet operation call.emitSuccess error)
    · apply Effect.Ends.keeps
      apply Ends.readLocals.bind
      intro attempt
      apply Effect.Ends.ite
      · intro _
        apply (Effect.keeps_iff_agree.mpr (hquiet (.releaseTrial key) rfl)).ends.weaken
          (fun _ hworld => hworld.2) (fun _ _ => id) fun _ _ => id
      · exact fun _ => .pure fun _ hworld => hworld.2
  intro response
  apply Effect.Keeps.bind
  · exact Effect.keeps_iff_agree.mpr ((agree_decodeDatasetResponse hquiet _ _ _ _).tryExcept
      fun error => agree_emitAndRaise hquiet operation call.emitSuccess error)
  · exact fun result => Effect.keeps_iff_agree.mpr
      ((agree_emitDatasetSuccess hquiet _ _).bind fun _ => .pure result)

/-! ## One request -/

/-- The call dispatched one request, where it says, and received the response of the result. -/
def SentFor (client : UDataClient) (call : DatasetCall Stream) (result : CallResult)
    (history : CallHistory Stream) : Prop :=
  ∃ dispatched, dispatches history = [dispatched] ∧
    Addressed call.method (client.origin ++ call.path) dispatched.request ∧
    dispatched.answer = .ok result.response

/-- A call that may not be repeated and that returns has sent its one request. -/
theorem sends_datasetCall (environment : CallEnvironment Stream) (client : UDataClient)
    (call : DatasetCall Stream)
    (hrefused : (datasetRetryIdempotency call.formBody call.idempotencyPolicy call.method
      call.files).allowsRetry = false) :
    Effect.Ends Unsent (datasetCall environment client call)
      (fun result world => SentFor client call result world.history) fun _ _ => True := by
  have haddressed := (addressed_datasetCall environment client call).ends
  have hunsent : ∀ world : CallWorld Stream RequestAttempt, Unsent world →
      AddressedSoFar call.method (client.origin ++ call.path) world := by
    intro world hworld
    show ∀ dispatched ∈ dispatches world.history, _
    rw [hworld]
    exact fun dispatched hdispatched => absurd hdispatched List.not_mem_nil
  apply ((ends_datasetCall environment client call hrefused).and
    (haddressed.weaken hunsent (fun _ _ => id) fun _ _ => id)).weaken (fun _ => id)
  · intro result world hworld
    obtain ⟨⟨⟨dispatched, hdispatches, hanswer, -⟩, -⟩, hall⟩ := hworld
    exact ⟨dispatched, hdispatches, hall dispatched (hdispatches ▸ List.mem_singleton_self _),
      hanswer⟩
  · exact fun _ _ _ => trivial

/-- The same of the asynchronous path. -/
theorem sends_datasetCallAsync (environment : CallEnvironment Stream) (client : UDataClient)
    (call : DatasetCall Stream)
    (hrefused : (datasetRetryIdempotency call.formBody call.idempotencyPolicy call.method
      call.files).allowsRetry = false) :
    Effect.Ends Unsent (datasetCallAsync environment client call)
      (fun result world => SentFor client call result world.history) fun _ _ => True := by
  by_cases hclosed : client.closed = true
  · unfold datasetCallAsync
    cases call.unknownOverrides with
    | some names => exact .raise fun _ _ => trivial
    | none =>
        simp only [if_pos hclosed]
        exact .raise fun _ _ => trivial
  · exact Agree.ends_history (P := fun history => dispatches history = [])
      (E := fun _ _ => True)
      (agree_datasetCall environment client call (Bool.not_eq_true _ ▸ hclosed))
      (fun attempt => ⟨{ recorded := attempt.recorded, response := attempt.response }, rfl, rfl⟩)
      (sends_datasetCall environment client call hrefused)

end DataSluice.Catalog.Udata
