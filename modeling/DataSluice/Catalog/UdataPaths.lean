/-
# The two request paths of uData agree

From the same history, with the same answers, `_dataset_call` and `_dataset_call_async` ask
for the same operations in the same order and end alike. Both are compared operator by
operator; the attempts differ in what they keep, and agree on `recorded` and `response`.

Two further properties are proved of the synchronous path and carried over: an admitted
trial is settled however the call ends, and a request that cannot be repeated is sent once.
-/

import DataSluice.Catalog.UdataSends

namespace DataSluice.Catalog.Udata

open DataSluice.Lib DataSluice.Domain DataSluice.Runtime DataSluice.Runtime.Transport

variable {Stream : Type} {environment : CallEnvironment Stream} {client : UDataClient}
  {call : DatasetCall Stream}

/-! ## Attempts -/

/-- The two attempts keep the same of what both keep. -/
structure AttemptsAlike (attempt : RequestAttempt) (other : AsyncAttempt) : Prop where
  recorded : attempt.recorded = other.recorded
  response : attempt.response = other.response

/-- The same, while a block of `dispatch` has not completed. -/
structure AttemptsRunning (attempt : RequestAttempt) (other : AsyncAttempt) : Prop extends
    AttemptsAlike attempt other where
  running : attempt.completed = false

theorem quiet_alike {Locals Locals' : Type} {alike : Locals → Locals' → Prop} :
    Quiet environment (World.Alike alike) :=
  fun op _ => Agree.ask environment op

theorem agree_sendRequest {Locals Locals' : Type} {alike : Locals → Locals' → Prop}
    (controlled : Bool) (credential : Option Credential) (body : Option Value)
    (request : Request Stream) :
    Effect.Agree (World.Alike alike)
      (sendRequest environment controlled credential body request :
        CallEffect Stream Locals RuntimeResponse)
      (sendRequest environment controlled credential body request) :=
  .ite (Agree.ask _ _) (Agree.ask _ _)

/-- The attempts keep the same, and the response is the given one. -/
structure AttemptsAnswered (answer : Option RuntimeResponse) (attempt : RequestAttempt)
    (other : AsyncAttempt) : Prop extends AttemptsAlike attempt other where
  answered : attempt.response = answer

theorem agree_record (environment : CallEnvironment Stream) (operation : OperationId)
    (key : CircuitKey) (before : CircuitState) (response : RuntimeResponse) :
    Effect.Agree (World.Alike (AttemptsAnswered (some response)))
      (RequestAttempt.record environment operation key before response)
      (do
        let after ← recordResponse environment key response.statusCode
        setLocals fun attempt => { attempt with recorded := true }
        emitBreakerChange environment operation before.isOpen after.isOpen) := by
  apply (Agree.ask _ _).bind
  intro after
  apply Effect.Agree.bind
  · exact Agree.setLocals fun _ _ h => ⟨⟨rfl, h.response⟩, h.answered⟩
  · exact fun _ => agree_emitBreakerChange quiet_alike _ _ _

theorem agree_handle {α : Type} (operation : OperationId) (key : CircuitKey)
    (before : CircuitState) (request : Request Stream) (error : Raised) :
    Effect.Agree (World.Alike AttemptsRunning)
      (RequestAttempt.handle (α := α) environment client operation key before request error)
      (AsyncAttempt.handle environment client operation key before request error) := by
  apply Effect.Agree.ite
  · intro world other hworld
    constructor
    · show Except.error (client.settleDatasetBudgetError error request world.locals.response) =
        Except.error (client.settleDatasetBudgetError error request other.locals.response)
      rw [hworld.locals.response]
    · exact hworld
  · apply Effect.Agree.ite
    · apply Effect.Agree.bind
      · exact Agree.setLocals fun _ _ h => ⟨⟨rfl, h.response⟩, h.running⟩
      · intro _
        apply (Agree.ask _ _).bind
        exact fun after => (agree_emitBreakerChange quiet_alike _ _ _).bind fun _ => .raise error
    · exact .raise error

/-- The clauses of `except` do not return. -/
theorem handle_raises {α : Type} (operation : OperationId) (key : CircuitKey)
    (before : CircuitState) (request : Request Stream) (error : Raised) :
    Effect.Ends (fun _ => True)
      (RequestAttempt.handle (α := α) environment client operation key before request error)
      (fun _ _ => False) (fun _ _ => True) := by
  apply Effect.Ends.ite
  · exact fun _ => Effect.Ends.anything.bind fun _ => .raise fun _ _ => trivial
  · intro _
    apply Effect.Ends.ite
    · intro _
      apply Effect.Ends.anything.bind
      intro _
      apply Effect.Ends.anything.bind
      intro _
      apply Effect.Ends.anything.bind
      exact fun _ => .raise fun _ _ => trivial
    · exact fun _ => .raise fun _ _ => trivial

/-- The block of an attempt: the send and the check of the deadline behind it. -/
theorem agree_block (environment : CallEnvironment Stream) (call : DatasetCall Stream)
    (credential : Option Credential) (request : Request Stream) :
    Effect.Agree (World.Alike AttemptsRunning)
      (do
        (do
          let response ← sendRequest environment
            (decide (call.owningOperation = setSiteOperation)) credential call.jsonBody request
          setLocals fun attempt => { attempt with response := some response })
        checkDeadline environment request)
      (do
        let response ← sendRequest environment
          (decide (call.owningOperation = setSiteOperation)) credential call.jsonBody request
        setLocals fun attempt => { attempt with response := some response }
        checkDeadline environment request) := by
  rw [bind_assoc]
  apply (agree_sendRequest _ _ _ _).bind
  intro response
  apply Effect.Agree.bind
  · exact Agree.setLocals fun _ _ h => ⟨⟨h.recorded, rfl⟩, h.running⟩
  · exact fun _ => agree_checkDeadline quiet_alike request

/-- The two attempts ask for the same and end alike. -/
theorem agree_sendDatasetAttempt (operation : OperationId) (key : CircuitKey)
    (request : Request Stream) (credential : Option Credential) :
    Effect.Agree (World.Alike AttemptsAlike)
      (sendDatasetAttempt environment client call operation key request credential)
      (sendDatasetAttemptAsync environment client call operation key request credential) := by
  unfold sendDatasetAttempt RequestAttempt.dispatch sendDatasetAttemptAsync
  rw [bind_assoc]
  apply Effect.Agree.bind
  · exact Agree.setLocals fun _ _ _ => ⟨rfl, rfl⟩
  intro _
  rw [bind_assoc]
  apply (Agree.ask _ _).bind
  intro before
  rw [bind_assoc]
  apply (agree_attemptRequest quiet_alike _ _).bind
  intro request
  rw [bind_assoc]
  apply (agree_checkDeadline quiet_alike request).bind
  intro _ world other hworld
  rw [bind_assoc]
  have hrunning : World.Alike AttemptsRunning
      { world with locals := { world.locals with completed := false } } other :=
    ⟨hworld.history, ⟨hworld.locals.recorded, hworld.locals.response⟩, rfl⟩
  have hlast : ∀ response, Effect.Agree (World.Alike (AttemptsAnswered (some response)))
      (RequestAttempt.answer : CallEffect Stream RequestAttempt RuntimeResponse)
      (pure response : CallEffect Stream AsyncAttempt RuntimeResponse) := by
    intro response world other hworld
    rw [RequestAttempt.answer, Effect.bind_run]
    simp only [readLocals, hworld.locals.answered]
    exact ⟨rfl, hworld⟩
  have hblock := agree_block environment call credential request
  apply hblock.cleanup_marked (bind_assoc _ _ _).symm
    (fun error => agree_handle operation key before request error)
    (fun error => handle_raises operation key before request error) _ _ _ _ _ hrunning
  · exact fun _ _ h => ⟨h.history, h.locals.toAttemptsAlike⟩
  · intro state _ h
    rw [Effect.bind_run]
    simp only [readLocals, h.locals.running]
    rfl
  · rintro ⟨history, recorded, attempts, reply, completed⟩ ⟨history', recorded', reply'⟩
      ⟨hhistory, ⟨hrecorded, hreply⟩, _⟩
    cases hhistory
    cases hrecorded
    cases hreply
    cases reply with
    | none => exact ⟨_, rfl, rfl, rfl, rfl, rfl⟩
    | some response =>
        obtain ⟨hend, htarget⟩ := ((agree_record environment operation key before
          response).bind fun _ => hlast response) ⟨history, recorded, attempts, some response, true⟩
          ⟨history, recorded, some response⟩ ⟨rfl, ⟨rfl, rfl⟩, rfl⟩
        simp only [bind_assoc] at hend htarget
        exact ⟨_, rfl, hend, htarget.history, htarget.locals.toAttemptsAlike⟩

/-! ## Calls -/

/-- The limit of a request that was made for a call is the limit of the call. -/
theorem maxResponseBytes_newRequest {operation : OperationId} {credential : Option Credential}
    {deadline : DeadlineMonitor} {request : Request Stream}
    (hrequest : client.newRequest call operation credential deadline = .ok request) :
    request.maxResponseBytes = some (call.maxResponseBytes.getD 1048576) := by
  simp only [UDataClient.newRequest, bind, Except.bind] at hrequest
  cases hbody : client.datasetBody call operation with
  | error error =>
      rw [hbody] at hrequest
      cases hrequest
  | ok body =>
      rw [hbody] at hrequest
      simp only [UDataClient.raiseValueError, RuntimeRequest.create] at hrequest
      split at hrequest
      · next request' hcreate =>
          cases hrequest
          split_ifs at hcreate
          cases hcreate
          rfl
      · cases hrequest

/-- The loops around the attempts, with the release of the trial. -/
theorem agree_datasetRetry (deadline : DeadlineMonitor) (operation : OperationId)
    (key : CircuitKey) (request : Request Stream) (credential : Option Credential) :
    Effect.Agree (World.Alike AttemptsAlike)
      (datasetRetry environment call operation key
        ((retryLoop client call deadline).run (readClock environment)
          (sendDatasetAttempt environment client call operation key request credential)
          (sleep environment)))
      (Effect.tryFinally
        (Effect.tryExcept
          ((retryLoop client call deadline).runAsync (readClock environment)
            (sendDatasetAttemptAsync environment client call operation key request credential)
            (sleep environment))
          fun error =>
            if error.isException = true then do
              emitDatasetFailure environment operation error call.emitSuccess
              Effect.raise error
            else Effect.raise error)
        (do
          let attempt ← readLocals
          if attempt.recorded = false then releaseTrial environment key else pure ())) := by
  apply Effect.Agree.tryFinally
  · apply Effect.Agree.tryExcept
    · rw [RetryLoop.runAsync_eq_run]
      exact RetryLoop.agree_run (agree_readClock quiet_alike) (agree_sendDatasetAttempt _ _ _ _)
        fun _ => Agree.ask _ _
    · exact fun error => agree_emitAndRaise quiet_alike _ _ _
  · intro world other hworld
    rw [RequestAttempt.release, Effect.bind_run, Effect.bind_run]
    simp only [readLocals, hworld.locals.recorded]
    exact Effect.Agree.ite (Agree.ask _ _) (.pure ()) _ _ hworld

/-- An open client ends a call alike on both paths, after the same operations. -/
theorem agree_datasetCall (environment : CallEnvironment Stream) (client : UDataClient)
    (call : DatasetCall Stream) (hopen : client.closed = false) :
    Effect.Agree (World.Alike AttemptsAlike) (datasetCall environment client call)
      (datasetCallAsync environment client call) := by
  unfold datasetCall prepareDatasetCall datasetCallAsync datasetDeadline
  cases call.unknownOverrides with
  | some names => exact .raise _
  | none =>
      simp only [hopen, Bool.false_eq_true, if_false, bind_assoc, pure_bind]
      apply (Effect.Agree.ofExcept _).bind
      intro operation
      apply (agree_callDeadline quiet_alike).bind
      intro deadline
      apply (agree_assertDispatchable quiet_alike _).bind
      intro _
      have hsite : Effect.Agree (World.Alike AttemptsAlike) (requireSiteVersion environment)
          (siteVersion environment client) := by
        rw [siteVersion, if_neg (by simp [hopen])]
        exact Agree.ask _ _
      apply hsite.bind
      intro _
      apply (agree_resolvedCredential quiet_alike).bind
      intro credential
      apply (agree_refreshCredentialScope quiet_alike credential).bind
      intro scope
      apply Effect.Agree.bind (Agree.ask _ _)
      intro effective
      apply (Effect.Agree.ofExcept _).bind
      intro _
      rw [datasetRequest, bind_assoc]
      apply (agree_assertDispatchable quiet_alike _).bind
      intro _
      apply Effect.Agree.ofExcept_bind
      intro request hrequest
      apply (agree_admitRequest quiet_alike (fun _ => Agree.ask _ _) _ _).bind
      intro key
      apply Effect.Agree.bind
      · exact Agree.setLocals fun _ _ _ => ⟨rfl, rfl⟩
      intro _
      apply Effect.Agree.bind
      · exact agree_datasetRetry _ operation key request credential
      intro response
      rw [finishDatasetCall, maxResponseBytes_newRequest hrequest]
      apply Effect.Agree.bind
      · exact (agree_decodeDatasetResponse quiet_alike _ _ _ _).tryExcept fun _ =>
          agree_emitAndRaise quiet_alike _ _ _
      intro result
      exact (agree_emitDatasetSuccess quiet_alike _ _).bind fun _ => .pure result

/-! ## Trials -/

/-- The happening is an admission of the key. -/
def Admits (key : CircuitKey) : CallHappening Stream → Prop
  | ⟨.admitTrial admitted, .ok true⟩ => admitted = key
  | _ => False

/-- The happening takes the key out of the trials in flight. A transport failure does so
before it reads the clock, which may raise. -/
def Settles (key : CircuitKey) : CallHappening Stream → Prop
  | ⟨.recordTransportFailure settled, _⟩ => settled = key
  | ⟨.recordResponse settled _, .ok _⟩ => settled = key
  | ⟨.releaseTrial settled, _⟩ => settled = key
  | _ => False

/-- The key was admitted, and nothing settles it afterwards. -/
def TrialOpen (key : CircuitKey) (history : CallHistory Stream) : Prop :=
  ∃ before admission after, history = before ++ admission :: after ∧ Admits key admission ∧
    ∀ happening ∈ after, ¬ Settles key happening

theorem TrialOpen.of_append {key : CircuitKey} {history : CallHistory Stream}
    {happening : CallHappening Stream}
    (hopen : TrialOpen key (history ++ [happening])) :
    Admits key happening ∨ (TrialOpen key history ∧ ¬ Settles key happening) := by
  obtain ⟨before, admission, after, hsplit, hadmits, hsettles⟩ := hopen
  rcases List.eq_nil_or_concat after with rfl | ⟨later, last, rfl⟩
  · have hlast := (List.append_inj' hsplit rfl).2
    cases hlast
    exact .inl hadmits
  · rw [List.concat_eq_append, ← List.cons_append, ← List.append_assoc] at hsplit
    obtain ⟨hhistory, hlast⟩ := List.append_inj' hsplit rfl
    cases hlast
    refine .inr ⟨⟨before, admission, later, hhistory, hadmits, ?_⟩, ?_⟩
    · exact fun other hother => hsettles other (by simp [hother])
    · exact hsettles happening (by simp)

section Trials

variable {Locals : Type}

/-- Every open trial is one of the given keys. -/
def OpenWithin (allowed : CircuitKey → Prop) (world : CallWorld Stream Locals) : Prop :=
  ∀ key, TrialOpen key world.history → allowed key

/-- Only an admission opens a trial. -/
theorem OpenWithin.append {allowed : CircuitKey → Prop} {world : CallWorld Stream Locals}
    {happening : CallHappening Stream} (hworld : OpenWithin allowed world)
    (hadmits : ∀ key, ¬ Admits key happening) :
    OpenWithin allowed { world with history := world.history ++ [happening] } := by
  intro key hopen
  rcases hopen.of_append with hadmitted | ⟨hbefore, -⟩
  · exact (hadmits key hadmitted).elim
  · exact hworld key hbefore

theorem not_admits_of_isQuiet {op : CallOp Stream} (hquiet : op.isQuiet = true)
    (answer : op.Answer) (key : CircuitKey) : ¬ Admits key ⟨op, answer⟩ := by
  intro hadmits
  cases op <;> first | exact hadmits.elim | cases hquiet

theorem stable_openWithin (allowed : CircuitKey → Prop) :
    Stable (OpenWithin allowed : CallWorld Stream Locals → Prop) :=
  fun _ _ answer hquiet hworld => hworld.append (not_admits_of_isQuiet hquiet answer)

theorem OpenWithin.none {allowed : CircuitKey → Prop} {world : CallWorld Stream Locals}
    (hnone : OpenWithin (fun _ => False) world) : OpenWithin allowed world :=
  fun key hopen => (hnone key hopen).elim

/-- After a happening that settles the only open trial there is none. -/
theorem OpenWithin.settle {key : CircuitKey} {world : CallWorld Stream Locals}
    {happening : CallHappening Stream}
    (hworld : OpenWithin (· = key) world) (hsettles : Settles key happening)
    (hadmits : ∀ other, ¬ Admits other happening) :
    OpenWithin (fun _ => False) { world with history := world.history ++ [happening] } := by
  intro other hopen
  rcases hopen.of_append with hadmitted | ⟨hbefore, hunsettled⟩
  · exact hadmits other hadmitted
  · cases hworld other hbefore
    exact hunsettled hsettles

end Trials

/-- While a call with the key runs no other trial is open, and none when it has recorded. -/
structure Tracked (key : CircuitKey) (world : CallWorld Stream RequestAttempt) : Prop where
  within : OpenWithin (· = key) world
  recorded : world.locals.recorded = true → OpenWithin (fun _ => False) world

theorem Tracked.of_none {key : CircuitKey} {world : CallWorld Stream RequestAttempt}
    (hnone : OpenWithin (fun _ => False) world) : Tracked key world :=
  ⟨hnone.none, fun _ => hnone⟩

theorem Tracked.append {key : CircuitKey} {world : CallWorld Stream RequestAttempt}
    {happening : CallHappening Stream} (hworld : Tracked key world)
    (hadmits : ∀ other, ¬ Admits other happening) :
    Tracked key { world with history := world.history ++ [happening] } :=
  ⟨hworld.within.append hadmits, fun hrecorded => (hworld.recorded hrecorded).append hadmits⟩

theorem stable_tracked (key : CircuitKey) :
    Stable (Tracked key : CallWorld Stream RequestAttempt → Prop) :=
  fun _ _ answer hquiet hworld => hworld.append (not_admits_of_isQuiet hquiet answer)

theorem keeps_emitBreakerChange {Locals : Type} {P : CallWorld Stream Locals → Prop}
    (hstable : Stable P) (operation : OperationId) (before after : Bool) :
    Effect.Keeps P (emitBreakerChange environment operation before after) :=
  Effect.keeps_iff_agree.mpr
    (agree_emitBreakerChange (hstable.quiet environment) operation before after)

theorem keeps_checkDeadline {Locals : Type} {P : CallWorld Stream Locals → Prop}
    (hstable : Stable P) (request : Request Stream) :
    Effect.Keeps P (checkDeadline environment request) :=
  Effect.keeps_iff_agree.mpr (agree_checkDeadline (hstable.quiet environment) request)

/-- A transport failure is recorded, so that no trial is open behind it. -/
theorem keeps_handle {α : Type} (operation : OperationId) (key : CircuitKey)
    (before : CircuitState) (request : Request Stream) (error : Raised) :
    Effect.Keeps (Tracked key)
      (RequestAttempt.handle (α := α) environment client operation key before request error) := by
  apply Effect.Ends.keeps
  apply Effect.Ends.ite
  · intro _
    apply Ends.readLocals.bind
    exact fun _ => .raise fun _ hworld => hworld.2
  intro _
  apply Effect.Ends.ite
  · intro _
    apply Effect.Ends.bind (R := fun _ => OpenWithin (· = key))
    · exact Ends.setLocals fun _ hworld => hworld.within
    intro _
    apply Effect.Ends.bind (R := fun _ => OpenWithin fun _ => False)
    · apply Ends.ask
      · exact fun _ _ hworld => hworld.settle rfl fun _ => id
      · exact fun _ _ hworld => .of_none (hworld.settle rfl fun _ => id)
    intro after
    apply Effect.Ends.bind (R := fun _ => OpenWithin fun _ => False)
    · exact (keeps_emitBreakerChange (stable_openWithin _) _ _ _).ends.weaken
        (fun _ => id) (fun _ _ => id) fun _ _ => .of_none
    · exact fun _ => .raise fun _ => .of_none
  · exact fun _ => .raise fun _ => id

/-- What a completed attempt records settles the trial. -/
theorem keeps_record (operation : OperationId) (key : CircuitKey) (before : CircuitState)
    (response : RuntimeResponse) :
    Effect.Keeps (Tracked key)
      (RequestAttempt.record environment operation key before response) := by
  apply Effect.Ends.keeps
  apply Effect.Ends.bind (R := fun _ => OpenWithin fun _ => False)
  · apply Ends.ask
    · exact fun _ _ hworld => hworld.within.settle rfl fun _ => id
    · exact fun _ _ hworld => hworld.append fun _ => id
  intro after
  apply Effect.Ends.bind (R := fun _ => OpenWithin fun _ => False)
  · exact Ends.setLocals fun _ => id
  intro _
  exact (keeps_emitBreakerChange (stable_openWithin _) _ _ _).ends.weaken (fun _ => id)
    (fun _ _ => .of_none) fun _ _ => .of_none

/-- A send admits no trial. -/
theorem keeps_sendRequest (key : CircuitKey) (controlled : Bool) (credential : Option Credential)
    (body : Option Value) (request : Request Stream) :
    Effect.Keeps (Tracked key)
      (sendRequest environment controlled credential body request :
        CallEffect Stream RequestAttempt RuntimeResponse) := by
  apply Effect.Ends.keeps
  apply Effect.Ends.ite
  · intro _
    apply Ends.ask
    · exact fun _ _ hworld => hworld.append fun _ => id
    · exact fun _ _ hworld => hworld.append fun _ => id
  · intro _
    apply Ends.ask
    · exact fun _ _ hworld => hworld.append fun _ => id
    · exact fun _ _ hworld => hworld.append fun _ => id

/-- An attempt that starts with what was recorded before ends with it too. -/
theorem keeps_sendDatasetAttempt (operation : OperationId) (key : CircuitKey)
    (request : Request Stream) (credential : Option Credential) :
    Effect.Keeps (Tracked key)
      (sendDatasetAttempt environment client call operation key request credential) := by
  have htracked : Stable (Tracked key : CallWorld Stream RequestAttempt → Prop) :=
    stable_tracked key
  have hquiet := htracked.quiet environment
  have hread : Effect.Keeps (Tracked key)
      (readLocals : CallEffect Stream RequestAttempt RequestAttempt) := fun _ => id
  unfold sendDatasetAttempt RequestAttempt.dispatch
  apply Effect.Keeps.bind
  · apply Effect.Keeps.bind
    · exact fun _ hworld => ⟨hworld.within, fun hrecorded => by cases hrecorded⟩
    intro _
    apply Effect.Keeps.bind
    · exact Effect.keeps_iff_agree.mpr (hquiet (.inspect key) rfl)
    intro before
    apply Effect.Keeps.bind
    · exact Effect.keeps_iff_agree.mpr (agree_attemptRequest hquiet _ _)
    intro request
    apply (keeps_checkDeadline (stable_tracked key) request).bind
    intro _
    apply Effect.Keeps.bind
    · exact fun _ hworld => ⟨hworld.within, hworld.recorded⟩
    intro _
    apply Effect.Keeps.tryFinally
    · apply Effect.Keeps.tryExcept
      · apply Effect.Keeps.bind
        · apply (keeps_sendRequest _ _ _ _ _).bind
          exact fun response _ hworld => ⟨hworld.within, hworld.recorded⟩
        intro _
        apply (keeps_checkDeadline (stable_tracked key) request).bind
        exact fun _ _ hworld => ⟨hworld.within, hworld.recorded⟩
      · exact fun error => keeps_handle operation key before request error
    · apply hread.bind
      intro attempt
      split
      · cases attempt.response with
        | none => exact .raise _
        | some response => exact keeps_record operation key before response
      · exact .pure ()
  · intro _
    apply hread.bind
    intro attempt
    cases attempt.response with
    | some response => exact .pure response
    | none => exact .raise _

/-- Behind the loop, with the release of the trial, no trial is open. -/
theorem settles_datasetRetry (deadline : DeadlineMonitor) (operation : OperationId)
    (key : CircuitKey) (request : Request Stream) (credential : Option Credential) :
    Effect.Ends (Tracked key)
      (datasetRetry environment call operation key
        ((retryLoop client call deadline).run (readClock environment)
          (sendDatasetAttempt environment client call operation key request credential)
          (sleep environment)))
      (fun _ => OpenWithin fun _ => False) (fun _ => OpenWithin fun _ => False) := by
  have htracked : Stable (Tracked key : CallWorld Stream RequestAttempt → Prop) :=
    stable_tracked key
  have hquiet := htracked.quiet environment
  have hloop : Effect.Keeps (Tracked key)
      ((retryLoop client call deadline).run (readClock environment)
        (sendDatasetAttempt environment client call operation key request credential)
        (sleep environment)) :=
    Effect.keeps_iff_agree.mpr (RetryLoop.agree_run (agree_readClock hquiet)
      (Effect.keeps_iff_agree.mp (keeps_sendDatasetAttempt operation key request credential))
      fun delay => hquiet (.sleep delay) rfl)
  have hrelease : Effect.Ends (Tracked key) (RequestAttempt.release environment key)
      (fun _ => OpenWithin fun _ => False) (fun _ => OpenWithin fun _ => False) := by
    apply Ends.readLocals.bind
    intro attempt
    apply Effect.Ends.ite
    · intro _
      apply Ends.ask
      · exact fun _ _ hworld => hworld.2.within.settle rfl fun _ => id
      · exact fun _ _ hworld => hworld.2.within.settle rfl fun _ => id
    · intro hrecorded
      apply Effect.Ends.pure
      rintro world ⟨rfl, hworld⟩
      exact hworld.recorded (Bool.not_eq_false _ ▸ hrecorded)
  apply Effect.Ends.tryFinally
  · exact (hloop.tryExcept fun error => Effect.keeps_iff_agree.mpr
      (agree_emitAndRaise hquiet operation call.emitSuccess error)).ends
  · exact fun _ => hrelease
  · exact fun _ => hrelease

/-- An admission opens the trial of its key. -/
theorem opens_admitRequest {Locals : Type} (operation : OperationId) (request : Request Stream) :
    Effect.Ends (OpenWithin fun _ => False)
      (admitRequest environment client operation request : CallEffect Stream Locals CircuitKey)
      (fun key => OpenWithin (· = key)) (fun _ => OpenWithin fun _ => False) := by
  apply Effect.Ends.bind (R := fun _ => OpenWithin fun _ => False)
  · exact .ofExcept (fun _ _ _ => id) fun _ _ _ => id
  intro key
  apply Effect.Ends.bind (R := fun admitted world =>
    OpenWithin (fun other => admitted = true ∧ other = key) world)
  · apply Ends.ask
    · intro world admitted hworld other hopen
      rcases hopen.of_append with hadmits | ⟨hbefore, -⟩
      · cases admitted with
        | true => exact ⟨rfl, Eq.symm hadmits⟩
        | false => exact hadmits.elim
      · exact (hworld other hbefore).elim
    · exact fun _ _ hworld => hworld.append fun _ => id
  intro admitted
  apply Effect.Ends.ite
  · exact fun _ => .pure fun _ hworld other hopen => (hworld other hopen).2
  · intro hrefused
    have hnone : ∀ world : CallWorld Stream Locals,
        OpenWithin (fun other => admitted = true ∧ other = key) world →
          OpenWithin (fun _ => False) world :=
      fun _ hworld other hopen => hrefused (hworld other hopen).1
    apply Effect.Ends.bind (R := fun _ => OpenWithin fun _ => False)
    · exact (Effect.keeps_iff_agree.mpr ((stable_openWithin _).quiet _ _ rfl)).ends.weaken hnone
        (fun _ _ => id) fun _ _ => id
    · exact fun _ => .raise fun _ => id

/-- However a call ends, no trial is open behind it. -/
theorem settles_datasetCall (environment : CallEnvironment Stream) (client : UDataClient)
    (call : DatasetCall Stream) :
    Effect.Ends (OpenWithin fun _ => False) (datasetCall environment client call)
      (fun _ => OpenWithin fun _ => False) (fun _ => OpenWithin fun _ => False) := by
  have hnone : Stable (OpenWithin fun _ => False : CallWorld Stream RequestAttempt → Prop) :=
    stable_openWithin _
  have hquiet := hnone.quiet environment
  unfold datasetCall
  apply (Effect.keeps_iff_agree.mpr (agree_prepareDatasetCall hquiet)).ends.bind
  rintro ⟨operation, deadline, credential, scope, request⟩
  apply (opens_admitRequest operation request).bind
  intro key
  apply Effect.Ends.bind (R := fun _ => Tracked key)
  · exact Ends.setLocals fun _ hworld => ⟨hworld, fun hrecorded => by cases hrecorded⟩
  intro _
  apply (settles_datasetRetry deadline operation key request credential).bind
  intro response
  apply Effect.Keeps.ends
  apply Effect.Keeps.bind
  · exact Effect.keeps_iff_agree.mpr ((agree_decodeDatasetResponse hquiet _ _ _ _).tryExcept
      fun error => agree_emitAndRaise hquiet operation call.emitSuccess error)
  · exact fun result => Effect.keeps_iff_agree.mpr
      ((agree_emitDatasetSuccess hquiet _ _).bind fun _ => .pure result)

/-! ## Both paths -/

/-- How a program ends when nothing happened before, and what happened. -/
def execute {Locals α : Type} (program : CallEffect Stream Locals α) (locals : Locals) :
    Except Raised α × CallHistory Stream :=
  ((program ⟨[], locals⟩).1, (program ⟨[], locals⟩).2.history)

section Both

variable (environment client call)

/-- The end and the history of `SyncUDataClient._dataset_call`. -/
def syncCall : Except Raised CallResult × CallHistory Stream :=
  execute (datasetCall environment client call) {}

/-- The end and the history of `AsyncUDataClient._dataset_call_async`. -/
def asyncCall : Except Raised CallResult × CallHistory Stream :=
  execute (datasetCallAsync environment client call) {}

end Both

/-- The same result, or errors of the same class. -/
def SameEnd {α : Type} : Except Raised α → Except Raised α → Prop
  | .ok value, .ok other => value = other
  | .error error, .error other => error.errorClass = other.errorClass
  | _, _ => False

theorem SameEnd.rfl {α : Type} (result : Except Raised α) : SameEnd result result := by
  cases result with
  | ok value => exact Eq.refl value
  | error error => exact Eq.refl error.errorClass

/-- An open client ends both paths with the same, after the same operations. -/
theorem syncCall_eq_asyncCall (hopen : client.closed = false) :
    syncCall environment client call = asyncCall environment client call := by
  obtain ⟨hresult, hworld⟩ := agree_datasetCall environment client call hopen
    ⟨[], {}⟩ ⟨[], {}⟩ ⟨rfl, rfl, rfl⟩
  exact Prod.ext hresult hworld.history

/-- A closed client does nothing on either path. -/
theorem calls_of_closed (environment : CallEnvironment Stream) (client : UDataClient)
    (call : DatasetCall Stream) (hclosed : client.closed = true) :
    ∃ error other, syncCall environment client call = (.error error, []) ∧
      asyncCall environment client call = (.error other, []) ∧
        error.errorClass = other.errorClass := by
  unfold syncCall asyncCall execute datasetCall prepareDatasetCall datasetDeadline
    datasetCallAsync
  cases call.unknownOverrides with
  | some names => exact ⟨_, _, rfl, rfl, rfl⟩
  | none =>
      simp only [if_pos hclosed]
      exact ⟨_, _, rfl, rfl, rfl⟩

/-- The body of the call can be sent once only: a stream, or what a callable returns. -/
def DatasetCall.IsOneShot (call : DatasetCall Stream) : Prop :=
  call.formBody.any FormBody.isCallable = true ∨ call.files.any UploadPart.isStream = true

theorem DatasetCall.IsOneShot.refused (honeshot : call.IsOneShot) :
    (datasetRetryIdempotency call.formBody call.idempotencyPolicy call.method
      call.files).allowsRetry = false := by
  rcases honeshot with hcallable | hstream
  · rw [datasetRetryIdempotency, if_pos hcallable]
    rfl
  · unfold datasetRetryIdempotency datasetIdempotency
    rw [if_pos hstream, ite_self]
    rfl

/-- What holds of the worlds in which a program ends holds of its end and its history. -/
theorem execute_ends {Locals α : Type} {program : CallEffect Stream Locals α} {locals : Locals}
    {P : CallWorld Stream Locals → Prop} {Q : α → CallWorld Stream Locals → Prop}
    {E : Raised → CallWorld Stream Locals → Prop} (hends : Effect.Ends P program Q E)
    (hstart : P ⟨[], locals⟩) :
    ∃ world, world.history = (execute program locals).2 ∧
      match (execute program locals).1 with
      | .ok value => Q value world
      | .error error => E error world := by
  obtain ⟨hok, herror⟩ := hends _ hstart
  refine ⟨(program ⟨[], locals⟩).2, rfl, ?_⟩
  show match (program ⟨[], locals⟩).1 with
    | .ok value => Q value _
    | .error error => E error _
  cases hrun : program ⟨[], locals⟩ with
  | mk result target =>
      cases result with
      | ok value => exact hok value target hrun
      | error error => exact herror error target hrun

theorem not_trialOpen_syncCall (key : CircuitKey) :
    ¬ TrialOpen key (syncCall environment client call).2 := by
  have hnone : OpenWithin (fun _ => False)
      (⟨[], {}⟩ : CallWorld Stream RequestAttempt) := by
    rintro key ⟨before, admission, after, hsplit, -⟩
    cases before <;> cases hsplit
  obtain ⟨world, hworld, hend⟩ := execute_ends
    (settles_datasetCall environment client call) hnone
  intro hopen
  rw [syncCall, ← hworld] at hopen
  split at hend
  · exact hend key hopen
  · exact hend key hopen

theorem length_dispatches_syncCall (environment : CallEnvironment Stream) (client : UDataClient)
    (call : DatasetCall Stream)
    (hrefused : (datasetRetryIdempotency call.formBody call.idempotencyPolicy call.method
      call.files).allowsRetry = false) :
    (dispatches (syncCall environment client call).2).length ≤ 1 := by
  obtain ⟨world, hworld, hend⟩ := execute_ends
    (ends_datasetCall environment client call hrefused)
    (show Unsent ⟨[], {}⟩ from rfl)
  rw [syncCall, ← hworld]
  split at hend
  · exact hend.1.length_le
  · exact hend.1

/-- Both paths ask for the same operations, in the same order, and end in the same result or the
same kind of error; both settle every trial, and both dispatch a one-shot body once at most. -/
theorem calls_agree (environment : CallEnvironment Stream) (client : UDataClient)
    (call : DatasetCall Stream) :
    (syncCall environment client call).2 = (asyncCall environment client call).2 ∧
    SameEnd (syncCall environment client call).1 (asyncCall environment client call).1 ∧
    (call.IsOneShot → (dispatches (syncCall environment client call).2).length ≤ 1 ∧
      (dispatches (asyncCall environment client call).2).length ≤ 1) ∧
    ∀ key, ¬ TrialOpen key (syncCall environment client call).2 ∧
      ¬ TrialOpen key (asyncCall environment client call).2 := by
  have hsame : (syncCall environment client call).2 = (asyncCall environment client call).2 ∧
      SameEnd (syncCall environment client call).1 (asyncCall environment client call).1 := by
    by_cases hclosed : client.closed = true
    · obtain ⟨error, other, hsync, hasync, hclass⟩ :=
        calls_of_closed environment client call hclosed
      rw [hsync, hasync]
      exact ⟨rfl, hclass⟩
    · rw [syncCall_eq_asyncCall (Bool.not_eq_true _ ▸ hclosed)]
      exact ⟨rfl, SameEnd.rfl _⟩
  obtain ⟨hhistory, hend⟩ := hsame
  rw [← hhistory]
  refine ⟨rfl, hend, fun honeshot => ?_, fun key => ?_⟩
  · have hlength := length_dispatches_syncCall environment client call
      honeshot.refused
    exact ⟨hlength, hlength⟩
  · exact ⟨not_trialOpen_syncCall key, not_trialOpen_syncCall key⟩

end DataSluice.Catalog.Udata
