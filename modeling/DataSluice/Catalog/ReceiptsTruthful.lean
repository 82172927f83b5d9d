/-
# What the receipt of a mutation says

The outcome of a receipt is read off an exception. An exception that is raised before the
request is sent, and one that names the status of a response, tell what became of the
mutation. One that the send itself raises does not, and the services keep the outcome open for
a part of these only.
-/

import DataSluice.Catalog.HarvestHistories
import DataSluice.Catalog.MutationReceipts

namespace DataSluice.Catalog.Udata

open DataSluice.Lib DataSluice.Lib.Url DataSluice.Domain DataSluice.Runtime
open DataSluice.Runtime.Transport

variable {Stream Locals T : Type} {environment : CallEnvironment Stream} {client : UDataClient}

/-! ## What a receipt may say -/

section Honest

variable {context : ReceiptContext} {settles : ErrorClass → Bool} {outcome : Outcome}
  {world : CallWorld Stream Locals} {error : Raised} {uploadsResource : Bool}
  {guarded : Raised → Raised}

/-- The dispatch was answered with such a status. -/
def AnsweredWith (p : Int → Prop) (dispatched : Dispatched Stream) : Prop :=
  ∃ response, dispatched.answer = .ok response ∧ p response.statusCode

/-- The outcome says nothing that the requests and their answers do not bear out. -/
structure Honest (outcome : Outcome) (world : CallWorld Stream Locals) : Prop where
  succeeded : outcome = .succeeded →
    SentOnce (AnsweredWith fun status => 200 ≤ status ∧ status < 300) world
  rejected : outcome = .rejected → Unsent world
  failed : outcome = .failed →
    Unsent world ∨ SentOnce (AnsweredWith fun status => ¬ (200 ≤ status ∧ status < 400)) world

/-- One request is sent at most, and an exception that is settled has a receipt, which is
honest. -/
structure Truthful (settles : ErrorClass → Bool) (failure : context.Error)
    (world : CallWorld Stream Locals) : Prop where
  once : (dispatches world.history).length ≤ 1
  receipted : settles failure.error.errorClass = true → failure.receipt.isSome = true
  honest : ∀ receipt ∈ failure.receipt, Honest receipt.outcome world

/-- The exception that a send raised leaves open what became of the mutation, and shows it. -/
def LeavesOpen (uploadsResource : Bool) (error : Raised) : Prop :=
  (uploadsResource = true ∧ error.errorClass = .osError) ∨ Interrupts error ∨ IsMarked error ∨
    error.isTransport = true ∨ (200 ≤ statusNumber error none ∧ statusNumber error none < 400)

/-- What the sends raised, as far as it is settled, leaves the mutation open once it has passed
the attempt and the guard of the dispatch. -/
def SendsLeaveOpen (settles : ErrorClass → Bool) (uploadsResource : Bool)
    (guarded : Raised → Raised) (client : UDataClient) (world : CallWorld Stream Locals) : Prop :=
  ∀ dispatched ∈ dispatches world.history, ∀ raised, dispatched.answer = .error raised →
    settles raised.errorClass = true →
      LeavesOpen uploadsResource (guarded (client.leaving dispatched.request none raised))

theorem Honest.of_open (hopen : OpenOutcome outcome) : Honest outcome world := by
  rcases hopen with rfl | rfl <;> exact ⟨nofun, nofun, nofun⟩

theorem Honest.of_unsent (hunsent : Unsent world) (houtcome : outcome ≠ .succeeded) :
    Honest outcome world :=
  ⟨fun hsucceeded => (houtcome hsucceeded).elim, fun _ => hunsent, fun _ => .inl hunsent⟩

theorem SendsLeaveOpen.of_unsent (hunsent : Unsent world) :
    SendsLeaveOpen settles uploadsResource guarded client world := by
  intro dispatched hdispatched
  rw [hunsent] at hdispatched
  cases hdispatched

theorem SendsLeaveOpen.of_answered {response : RuntimeResponse}
    (hsent : SentOnce (fun dispatched => dispatched.answer = .ok response) world) :
    SendsLeaveOpen settles uploadsResource guarded client world := by
  obtain ⟨dispatched, hdispatches, hanswer⟩ := hsent
  intro other hother raised hraised
  rw [hdispatches, List.mem_singleton] at hother
  rw [hother, hanswer] at hraised
  cases hraised

theorem failedOutcome_ne (response : Option RuntimeResponse) :
    failedOutcome uploadsResource error response ≠ .succeeded := by
  unfold failedOutcome
  split
  · exact Outcome.noConfusion
  · exact mutationOutcome_ne error response true

/-- The exceptions that leave a mutation open are those whose receipt says so. -/
theorem openOutcome_failedOutcome_iff :
    OpenOutcome (failedOutcome uploadsResource error none) ↔ LeavesOpen uploadsResource error := by
  unfold failedOutcome LeavesOpen
  split
  · next hupload => exact iff_of_true (.inr rfl) (.inl hupload)
  · next hupload =>
      rw [openOutcome_mutationOutcome_iff]
      exact (or_iff_right hupload).symm

theorem failedOutcome_ne_skipped (response : Option RuntimeResponse) :
    failedOutcome uploadsResource error response ≠ .skipped := by
  unfold failedOutcome mutationOutcome
  simp only
  split_ifs <;> exact Outcome.noConfusion

/-- The receipt of an exception is honest when its outcome is, as far as it is settled. -/
theorem truthful_settled_iff {build : Raised → Except Raised context.Receipt}
    (hbuild : ∃ receipt, build error = .ok receipt ∧ receipt.outcome = outcome)
    (honce : (dispatches world.history).length ≤ 1) :
    Truthful settles (context.settled settles build { error := error }) world ↔
      (settles error.errorClass = true → Honest outcome world) := by
  obtain ⟨receipt, hreceipt, rfl⟩ := hbuild
  by_cases hsettles : settles error.errorClass = true
  · have hsettled : context.settled settles build { error := error } =
        context.attachReceipt error receipt := by
      unfold ReceiptContext.settled
      rw [if_pos hsettles, hreceipt]
    rw [hsettled]
    constructor
    · exact fun htruthful _ => htruthful.honest receipt rfl
    · intro hhonest
      refine ⟨honce, fun _ => rfl, fun other hother => ?_⟩
      cases hother
      exact hhonest hsettles
  · have hsettled : context.settled settles build { error := error } = { error := error } :=
      if_neg hsettles
    rw [hsettled]
    apply iff_of_true
    · exact ⟨honce, fun h => absurd h hsettles, fun other hother => absurd hother nofun⟩
    · exact fun h => absurd h hsettles

/-! ## What a dispatch explains -/

theorem plain_statusKeys : ["status_code", "ambiguous"].all isPlainKey = true := by
  decide

theorem plain_budgetKeys : ["ambiguous", "status_code"].all isPlainKey = true := by
  decide

/-- Two plain entries are bounded as they are. -/
theorem boundedMetadata_pair {redaction : MetadataRedaction} {first second : String}
    {front back : Value} (hkeys : [first, second].all isPlainKey = true)
    (hfront : PlainValue redaction 0 front) (hback : PlainValue redaction 0 back) :
    boundedMetadata redaction [(.text first, front), (.text second, back)] =
      [(.text first, front), (.text second, back)] := by
  apply boundedMetadata_of_plain [(first, front), (second, back)]
    (Nat.le_of_ble_eq_true rfl) hkeys
  intro entry hentry
  simp only [List.mem_cons, List.not_mem_nil, or_false] at hentry
  rcases hentry with rfl | rfl
  · exact hfront
  · exact hback

/-- A budget that runs out behind the start of a request marks its error, unless the error
comes with metadata of its own. -/
theorem metadata_leaving (client : UDataClient) {request : Request Stream}
    (response : Option RuntimeResponse)
    (hclass : error.errorClass = .budgetExhausted) (hmetadata : error.metadata = [])
    (hmethod : request.method ∉ readMethods) :
    ∃ statusCode, (client.leaving request response error).metadata =
      [(.text "ambiguous", .bool true), (.text "status_code", .int statusCode)] := by
  rw [readMethods] at hmethod
  unfold UDataClient.leaving UDataClient.settleDatasetBudgetError attachCatalogMetadata
  rw [if_pos hclass, if_neg hmethod, hmetadata]
  exact ⟨_, boundedMetadata_pair plain_budgetKeys (.bool _) (.int _)⟩

theorem errorClass_leaving (request : Request Stream) (response : Option RuntimeResponse)
    (error : Raised) : (client.leaving request response error).errorClass = error.errorClass := by
  unfold UDataClient.leaving UDataClient.settleDatasetBudgetError
  split
  · split
    · rfl
    · rfl
  · rfl

section Guards

variable {dispatch : MutationDispatch Stream}

/-- The guard of a dispatch keeps an error, or marks one whose status is not that of a refusal. -/
theorem guarded_cases (dispatch : MutationDispatch Stream) (error : Raised) :
    dispatch.guarded context settles error = error ∨
      (¬ (400 ≤ statusNumber error none ∧ statusNumber error none < 500) ∧
        dispatch.guarded context settles error =
          attachCatalogMetadata context.redaction error [(.text "ambiguous", .bool true)]) := by
  unfold MutationDispatch.guarded settleAmbiguous
  simp only
  split_ifs with htransfer hsettled hstatus
  · exact .inl rfl
  · exact .inl rfl
  · exact .inr ⟨fun hrefused => hstatus (.inr hrefused), rfl⟩
  · exact .inl rfl

theorem errorClass_guarded (dispatch : MutationDispatch Stream) (error : Raised) :
    (dispatch.guarded context settles error).errorClass = error.errorClass := by
  rcases guarded_cases dispatch error with hkept | ⟨-, hmarked⟩
  · rw [hkept]
  · rw [hmarked]
    rfl

/-- An error that a budget marked stays marked behind the guard. -/
theorem isMarked_guarded {statusCode : Int} (hmetadata : error.metadata =
      [(.text "ambiguous", .bool true), (.text "status_code", .int statusCode)]) :
    IsMarked (dispatch.guarded context settles error) := by
  rcases guarded_cases dispatch error with hkept | ⟨-, hmarked⟩
  · rw [hkept, IsMarked, hmetadata]
    rfl
  · have hmerged : mergeEntries error.metadata [(.text "ambiguous", .bool true)] =
        [(.text "ambiguous", .bool true), (.text "status_code", .int statusCode)] := by
      rw [hmetadata]
      rfl
    rw [hmarked, IsMarked, attachCatalogMetadata, hmerged,
      boundedMetadata_pair plain_budgetKeys (.bool _) (.int _)]
    rfl

end Guards

/-- What names the status of the answer is honest about it. -/
theorem honest_of_namesStatus {response : RuntimeResponse}
    (hsent : SentOnce (fun dispatched => dispatched.answer = .ok response) world)
    (hnames : NamesStatus error response.statusCode) :
    Honest (failedOutcome uploadsResource error none) world := by
  have hnumber : statusNumber error none = response.statusCode := by
    unfold statusNumber
    rw [errorStatus_of_namesStatus hnames]
    rfl
  have hvalid : 100 ≤ response.statusCode := by
    have h := response.statusCode_valid
    rw [validStatus, Bool.and_eq_true] at h
    exact of_decide_eq_true h.1
  by_cases hopen : OpenOutcome (failedOutcome uploadsResource error none)
  · exact .of_open hopen
  · have hleaves := mt openOutcome_failedOutcome_iff.mpr hopen
    simp only [LeavesOpen, not_or, hnumber] at hleaves
    obtain ⟨hupload, hinterrupts, hmarked, htransport, hstatus⟩ := hleaves
    have houtcome : failedOutcome uploadsResource error none = .failed := by
      unfold failedOutcome
      rw [if_neg hupload, mutationOutcome_eq, if_neg hinterrupts, if_neg hmarked, hnumber,
        if_neg (by omega), if_neg (fun h => htransport h.2), if_neg (by omega),
        if_neg (by omega)]
    rw [houtcome]
    refine ⟨nofun, nofun, fun _ => .inr (hsent.imp fun dispatched hanswer => ?_)⟩
    exact ⟨response, hanswer, hstatus⟩

/-- The guard of a dispatch keeps what names the status of the answer honest. A marked error
says less, and a refusal is not marked. -/
theorem honest_guarded_of_namesStatus {dispatch : MutationDispatch Stream}
    {response : RuntimeResponse}
    (hsent : SentOnce (fun dispatched => dispatched.answer = .ok response) world)
    (hnames : NamesStatus error response.statusCode) :
    Honest (failedOutcome uploadsResource (dispatch.guarded context settles error) none) world := by
  rcases guarded_cases dispatch error with hkept | ⟨hstatus, hmarked⟩
  · rw [hkept]
    exact honest_of_namesStatus hsent hnames
  rw [hmarked]
  have hnumber : statusNumber error none = response.statusCode := by
    unfold statusNumber
    rw [errorStatus_of_namesStatus hnames]
    rfl
  rcases hnames with hattribute | ⟨-, -, hmetadata | hrefused⟩
  · exact honest_of_namesStatus hsent (.inl hattribute)
  · have hmerged : mergeEntries error.metadata [(.text "ambiguous", .bool true)] =
        [(.text "status_code", .int response.statusCode), (.text "ambiguous", .bool true)] := by
      rw [hmetadata]
      rfl
    apply Honest.of_open
    rw [openOutcome_failedOutcome_iff]
    refine .inr (.inr (.inl ?_))
    rw [IsMarked, attachCatalogMetadata, hmerged,
      boundedMetadata_pair plain_statusKeys (.int _) (.bool _)]
    rfl
  · rw [hnumber] at hstatus
    exact absurd hrefused hstatus

/-- An exception that one dispatch explains is shown honestly behind the guard exactly when what
the send raised leaves the mutation open. -/
theorem honest_iff_of_explains {dispatch : MutationDispatch Stream}
    (hmethod : ∀ dispatched ∈ dispatches world.history, dispatched.request.method ∉ readMethods)
    (hsent : SentOnce (Dispatched.Explains client error) world) :
    (settles (dispatch.guarded context settles error).errorClass = true →
        Honest (failedOutcome uploadsResource (dispatch.guarded context settles error) none)
          world) ↔
      SendsLeaveOpen settles uploadsResource (dispatch.guarded context settles) client world := by
  obtain ⟨dispatched, hdispatches, hexplains⟩ := hsent
  have hmem : dispatched ∈ dispatches world.history := hdispatches ▸ List.mem_singleton_self _
  rw [errorClass_guarded]
  unfold Dispatched.Explains at hexplains
  cases hanswer : dispatched.answer with
  | error raised =>
      rw [hanswer] at hexplains
      simp only at hexplains
      have hclass : error.errorClass = raised.errorClass := by
        rw [hexplains]
        exact errorClass_leaving _ _ _
      constructor
      · intro hhonest other hother raised' hraised hsettles
        rw [hdispatches, List.mem_singleton] at hother
        subst hother
        rw [hanswer] at hraised
        cases hraised
        rw [← hexplains]
        apply openOutcome_failedOutcome_iff.mp
        have hshown := hhonest (hclass ▸ hsettles)
        rw [openOutcome_iff _ (failedOutcome_ne none) (failedOutcome_ne_skipped none)]
        have hunsent : ¬ Unsent world := by
          intro hunsent
          rw [hunsent] at hdispatches
          cases hdispatches
        constructor
        · exact fun hrejected => hunsent (hshown.rejected hrejected)
        · intro hfailed
          rcases hshown.failed hfailed with h | ⟨other, hother, response, hresponse, -⟩
          · exact hunsent h
          · rw [hdispatches] at hother
            cases hother
            rw [hanswer] at hresponse
            cases hresponse
      · intro hopen hsettles
        apply Honest.of_open
        rw [openOutcome_failedOutcome_iff, hexplains]
        exact hopen dispatched hmem raised hanswer (hclass ▸ hsettles)
  | ok response =>
      rw [hanswer] at hexplains
      simp only at hexplains
      have hanswered : SentOnce (fun dispatched => dispatched.answer = .ok response) world :=
        ⟨dispatched, hdispatches, hanswer⟩
      apply iff_of_true
      · intro _
        rcases hexplains with ⟨-, deadline, -, now, herror⟩ | ⟨-, hnames⟩
        · obtain ⟨statusCode, hmetadata⟩ := metadata_leaving client (some response)
            (show (deadline.exhausted .dispatch now).errorClass = .budgetExhausted from rfl) rfl
            (hmethod dispatched hmem)
          apply Honest.of_open
          rw [openOutcome_failedOutcome_iff, herror]
          exact .inr (.inr (.inl (isMarked_guarded hmetadata)))
        · exact honest_guarded_of_namesStatus hanswered hnames
      · exact .of_answered hanswered

end Honest

/-! ## Dispatches of a mutation -/

/-- Nothing that was sent is a read. -/
def OnlyWrites (world : CallWorld Stream Locals) : Prop :=
  ∀ dispatched ∈ dispatches world.history, dispatched.request.method ∉ readMethods

/-- What may not be repeated is sent once at most, with the method of the call, and what is
raised is explained by it. -/
def SendsOnce (environment : CallEnvironment Stream) (client : UDataClient)
    (call : DatasetCall Stream → CallEffect Stream Locals CallResult) : Prop :=
  ∀ request : DatasetCall Stream,
    (datasetRetryIdempotency request.formBody request.idempotencyPolicy request.method
      request.files).allowsRetry = false →
    Effect.Ends Unsent (call request) (fun result => Decoded request result.response result)
      fun error world => Excused environment client error world ∧
        AddressedSoFar request.method (client.origin ++ request.path) world

theorem AddressedSoFar.of_unsent {method url : Text} {world : CallWorld Stream Locals}
    (hunsent : Unsent world) : AddressedSoFar method url world := by
  intro dispatched hdispatched
  rw [hunsent] at hdispatched
  cases hdispatched

theorem sendsOnce_datasetCall (environment : CallEnvironment Stream) (client : UDataClient) :
    SendsOnce environment client (datasetCall environment client) := by
  intro request hrefused
  have haddressed := (addressed_datasetCall environment client request).ends
  exact ((ends_datasetCall environment client request hrefused).and
    (haddressed.weaken (fun _ => .of_unsent) (fun _ _ => id) fun _ _ => id)).weaken
      (fun _ => id) (fun _ _ h => h.1) fun _ _ => id

theorem sendsOnce_datasetCallAsync (environment : CallEnvironment Stream)
    (client : UDataClient) :
    SendsOnce environment client (datasetCallAsync environment client) := by
  intro request hrefused
  by_cases hclosed : client.closed = true
  · unfold datasetCallAsync
    cases request.unknownOverrides with
    | some names => exact .raise fun _ hunsent => ⟨.of_unsent hunsent, .of_unsent hunsent⟩
    | none =>
        simp only [if_pos hclosed]
        exact .raise fun _ hunsent => ⟨.of_unsent hunsent, .of_unsent hunsent⟩
  · exact Agree.ends_history (P := fun history => dispatches history = [])
      (Q := fun result history =>
        (∃ dispatched, dispatches history = [dispatched] ∧ Received result.response dispatched) ∧
          result.response = result.response ∧ result.statusCode = result.response.statusCode ∧
          (request.IsPlain →
            200 ≤ result.response.statusCode ∧ result.response.statusCode < 300))
      (E := fun error history =>
        ((dispatches history).length ≤ 1 ∧ (Reliable environment → dispatches history = [] ∨
          ∃ dispatched, dispatches history = [dispatched] ∧ dispatched.Explains client error)) ∧
          AllAddressed request.method (client.origin ++ request.path) history)
      (agree_datasetCall environment client request (Bool.not_eq_true _ ▸ hclosed))
      (fun attempt => ⟨{ recorded := attempt.recorded, response := attempt.response }, rfl, rfl⟩)
      (sendsOnce_datasetCall environment client request hrefused)

namespace MutationDispatch

variable {context : ReceiptContext} {dispatch : MutationDispatch Stream}
  {policy : MutationPolicy}

/-- A policy that does not allow retries keeps a mutation from being repeated. -/
theorem refused_call (hpolicy : policy.idempotency.allowsRetry = false) (credential : Option Credential)
    (request : MutationRequest) (parts : List (UploadPart Stream)) :
    (datasetRetryIdempotency (dispatch.call (some policy) credential request parts).formBody
      (dispatch.call (some policy) credential request parts).idempotencyPolicy
      (dispatch.call (some policy) credential request parts).method
      (dispatch.call (some policy) credential request parts).files).allowsRetry = false := by
  unfold datasetRetryIdempotency datasetIdempotency
  split
  · rfl
  · split
    · rfl
    · exact hpolicy

theorem prepared_eq_ok {request : Except Raised MutationRequest} {resolved : Option Credential}
    {call : DatasetCall Stream}
    (hcall : dispatch.prepared context (some policy) request resolved = .ok call) :
    ∃ credential route parts, request = .ok route ∧
      call = dispatch.call (some policy) credential route parts := by
  simp only [prepared, bind, Except.bind] at hcall
  split at hcall
  · cases hcall
  · next credential _ =>
      cases request with
      | error error => cases hcall
      | ok route =>
          simp only at hcall
          split at hcall
          · cases hcall
          · next parts _ =>
              cases hcall
              exact ⟨credential, route, parts, rfl, rfl⟩

/-- A success was received for the one request that was sent. -/
def Succeeded (result : CallResult) (world : CallWorld Stream Locals) : Prop :=
  SentOnce (Received result.response) world ∧ 200 ≤ result.response.statusCode ∧
    result.response.statusCode < 300

/-- What a dispatch raises: anything as long as nothing was sent, and then what its guard makes
of an error that the one request excuses. -/
def Raises (context : ReceiptContext) (dispatch : MutationDispatch Stream)
    (settles : ErrorClass → Bool) (environment : CallEnvironment Stream) (client : UDataClient)
    (error : Raised) (world : CallWorld Stream Locals) : Prop :=
  Unsent world ∨ ∃ cause, error = dispatch.guarded context settles cause ∧
    Excused environment client cause world ∧ OnlyWrites world

/-- A dispatch sends one request at most, and returns a success only. -/
theorem ends_send {call : DatasetCall Stream → CallEffect Stream Locals CallResult}
    {settles : ErrorClass → Bool} {guardsCredential : Bool}
    (hcall : SendsOnce environment client call) (hpolicy : policy.idempotency.allowsRetry = false)
    {request : Except Raised MutationRequest}
    (hrequest : ∀ route, request = .ok route → route.method ∉ readMethods) :
    Effect.Ends Unsent
      (dispatch.send context (some policy) settles guardsCredential environment call request)
      Succeeded (dispatch.Raises context settles environment client) := by
  have hquiet : Quiet environment (Effect.SameWith (Unsent : CallWorld Stream Locals → Prop)) :=
    stable_unsent.quiet environment
  unfold send
  apply Effect.Ends.bind (R := fun _ => Unsent)
  · exact .ofExcept (fun _ _ _ => id) fun _ _ _ => .inl
  intro _
  apply Effect.Ends.bind (R := fun _ => Unsent)
  · apply Effect.Ends.mapError
    exact (Effect.keeps_iff_agree.mpr (hquiet .refreshedCredential rfl)).ends.weaken
      (fun _ => id) (fun _ _ => id) fun _ _ => .inl
  intro resolved
  apply Effect.Ends.mapError
  apply Effect.Ends.bind (R := fun prepared world =>
    dispatch.prepared context (some policy) request resolved = .ok prepared ∧ Unsent world)
  · exact .ofExcept (fun prepared hprepared world hunsent => ⟨hprepared, hunsent⟩)
      fun _ _ _ => .inl
  intro prepared
  apply Effect.Ends.assume fun _ hworld => hworld.1
  intro hprepared
  obtain ⟨credential, route, parts, hroute, rfl⟩ := prepared_eq_ok hprepared
  apply (hcall _ (refused_call hpolicy credential route parts)).weaken
  · exact fun _ hworld => hworld.2
  · exact fun result world hdecoded => ⟨hdecoded.1, hdecoded.2.2.2 ⟨rfl, rfl⟩⟩
  · rintro error world ⟨hexcused, haddressed⟩
    refine .inr ⟨error, rfl, hexcused, fun dispatched hdispatched => ?_⟩
    rw [(haddressed dispatched hdispatched).method_eq]
    exact hrequest route hroute

end MutationDispatch

/-! ## Runs of a mutation -/

namespace ReceiptContext

variable (context : ReceiptContext)

/-- How a receipted mutation ends: with what is completed behind a response, or with an
exception that is settled in one of three places. -/
theorem ends_runReceiptedMutation {settles : ErrorClass → Bool}
    {failureReceipt : Raised → Option RuntimeResponse → Except Raised context.Receipt}
    {completed : CallResult → Except Raised T} {precondition : Option (Except Raised Unit)}
    {dispatch : CallEffect Stream Locals CallResult} {P : CallWorld Stream Locals → Prop}
    {R : CallResult → CallWorld Stream Locals → Prop}
    {F : Raised → CallWorld Stream Locals → Prop} {Q : T → CallWorld Stream Locals → Prop}
    {E : context.Error → CallWorld Stream Locals → Prop}
    (hprecondition : precondition.getD (.ok ()) = .ok ())
    (hdispatch : Effect.Ends P dispatch R F)
    (hraised : ∀ error world, F error world → E (context.settled settles
      (fun error => failureReceipt error none) { error := error }) world)
    (hcompleted : ∀ result error world, R result world → completed result = .error error →
      E (context.settled settles (fun error => failureReceipt error (some result.response))
        { error := error }) world)
    (hreturned : ∀ result value world, R result world → completed result = .ok value →
      Q value world) :
    Effect.Ends P (context.runReceiptedMutation settles failureReceipt completed precondition
      dispatch) Q E := by
  apply Effect.Ends.bind (R := R)
  · apply context.ends_settling
    rw [hprecondition]
    apply Effect.Ends.bind (R := fun _ => P)
    · exact .ofExcept (fun _ _ _ => id) fun _ herror => nomatch herror
    · exact fun _ => hdispatch.weaken (fun _ => id) (fun _ _ => id) hraised
  · intro result
    apply context.ends_settling
    apply Effect.Ends.ofExcept
    · exact fun value hvalue world hworld => hreturned result value world hworld hvalue
    · exact fun error herror world hworld => hcompleted result error world hworld herror

end ReceiptContext

section Runs

variable {context : ReceiptContext} {settles : ErrorClass → Bool} {error : Raised}
  {world : CallWorld Stream Locals} {uploadsResource : Bool} {result : CallResult}
  {dispatch : MutationDispatch Stream}

/-- What is said of an exception holds exactly when the sends leave the mutation open. -/
def ToldTrue (context : ReceiptContext) (settles : ErrorClass → Bool) (uploadsResource : Bool)
    (dispatch : MutationDispatch Stream) (client : UDataClient) (failure : context.Error)
    (world : CallWorld Stream Locals) : Prop :=
  Truthful settles failure world ↔
    SendsLeaveOpen settles uploadsResource (dispatch.guarded context settles) client world

theorem toldTrue_of_unsent {build : Raised → Except Raised context.Receipt} {outcome : Outcome}
    (hbuild : ∃ receipt, build error = .ok receipt ∧ receipt.outcome = outcome)
    (houtcome : outcome ≠ .succeeded) (hunsent : Unsent world) :
    ToldTrue context settles uploadsResource dispatch client
      (context.settled settles build { error := error }) world := by
  apply iff_of_true
  · apply (truthful_settled_iff hbuild (by rw [hunsent]; exact Nat.zero_le 1)).mpr
    exact fun _ => .of_unsent hunsent houtcome
  · exact .of_unsent hunsent

theorem toldTrue_of_raises {build : Raised → Except Raised context.Receipt}
    (hreliable : Reliable environment)
    (hbuild : ∃ receipt, build error = .ok receipt ∧
      receipt.outcome = failedOutcome uploadsResource error none)
    (hraises : dispatch.Raises context settles environment client error world) :
    ToldTrue context settles uploadsResource dispatch client
      (context.settled settles build { error := error }) world := by
  rcases hraises with hunsent | ⟨cause, rfl, hexcused, hwrites⟩
  · exact toldTrue_of_unsent hbuild (failedOutcome_ne none) hunsent
  rcases hexcused.2 hreliable with hunsent | hexplained
  · exact toldTrue_of_unsent hbuild (failedOutcome_ne none) hunsent
  · rw [ToldTrue, truthful_settled_iff hbuild hexcused.1]
    exact honest_iff_of_explains hwrites hexplained

/-- An exception without a status that is raised behind a success leaves the mutation open. -/
theorem openOutcome_of_uncoded {response : RuntimeResponse} (huncoded : Uncoded error)
    (hstatus : 200 ≤ response.statusCode ∧ response.statusCode < 300) :
    OpenOutcome (failedOutcome uploadsResource error (some response)) := by
  unfold failedOutcome
  split
  · exact .inr rfl
  · apply openOutcome_mutationOutcome_iff.mpr
    have hnumber : statusNumber error (some response) = response.statusCode := by
      unfold statusNumber
      rw [errorStatus_of_uncoded huncoded]
      rfl
    rw [hnumber]
    exact .inr (.inr (.inr ⟨hstatus.1, by omega⟩))

theorem toldTrue_of_succeeded {build : Raised → Except Raised context.Receipt}
    (hbuild : ∃ receipt, build error = .ok receipt ∧
      receipt.outcome = failedOutcome uploadsResource error (some result.response))
    (hsucceeded : MutationDispatch.Succeeded result world) (huncoded : Uncoded error) :
    ToldTrue context settles uploadsResource dispatch client
      (context.settled settles build { error := error }) world := by
  apply iff_of_true
  · apply (truthful_settled_iff hbuild hsucceeded.1.length_le).mpr
    exact fun _ => .of_open (openOutcome_of_uncoded huncoded hsucceeded.2)
  · exact .of_answered (hsucceeded.1.imp fun _ h => h.1)

/-- The receipt of a success is honest behind one. -/
theorem honest_of_succeeded {outcome : Outcome}
    (hsucceeded : MutationDispatch.Succeeded result world) (houtcome : outcome = .succeeded) :
    Honest outcome world := by
  subst houtcome
  refine ⟨fun _ => hsucceeded.1.imp fun dispatched h => ?_, nofun, nofun⟩
  exact ⟨result.response, h.1, hsucceeded.2⟩

theorem uncoded_mappingRecord {payload : Value} (herror : mappingRecord payload = .error error) :
    Uncoded error := by
  unfold mappingRecord at herror
  split at herror
  · cases herror
  · cases herror
    exact ⟨rfl, rfl⟩

theorem uncoded_mutationRecord {payload : Payload}
    (herror : mutationRecord payload = .error error) : Uncoded error := by
  have hmap : ∀ {value : Value}, some <$> mappingRecord value = .error error → Uncoded error := by
    intro value hvalue
    cases hrecord : mappingRecord value with
    | error other =>
        rw [hrecord] at hvalue
        cases hvalue
        exact uncoded_mappingRecord hrecord
    | ok record =>
        rw [hrecord] at hvalue
        cases hvalue
  unfold mutationRecord at herror
  split at herror
  all_goals first
    | exact hmap herror
    | cases herror

/-- What `_succeeded` raises has no status. -/
theorem uncoded_succeeded {mutation : CatalogMutation} (hrecorded : context.Recorded mutation)
    (shape : ResultShape context (Option Value) T) {successTarget : Option (Payload → Text)}
    (herror : context.succeeded shape.build mutation successTarget result = .error error) :
    Uncoded error := by
  have hstatus : (integerOf (.int result.statusCode)).isSome = true := rfl
  obtain ⟨receipt, hreceipt, -⟩ := context.exists_receipt hrecorded
    ((successTarget.map fun read => read result.payload).getD mutation.target) .succeeded hstatus
  simp only [ReceiptContext.succeeded, hreceipt, bind, Except.bind] at herror
  split at herror
  · next other hother =>
      cases herror
      exact uncoded_mutationRecord hother
  · exact shape.uncoded herror

/-- A result has the receipt of a success. -/
theorem succeeded_receipt {mutation : CatalogMutation}
    (shape : ResultShape context (Option Value) T) {successTarget : Option (Payload → Text)}
    {value : T}
    (hvalue : context.succeeded shape.build mutation successTarget result = .ok value) :
    (shape.receipt value).outcome = .succeeded := by
  obtain ⟨receipt, record, -, houtcome, hbuild⟩ := context.succeeded_eq_ok hvalue
  rw [shape.receipt_build hbuild]
  exact houtcome

end Runs

namespace MutationRun

variable {context : ReceiptContext} {settles : ErrorClass → Bool} {guardsCredential : Bool}

/-- An accepted policy is there, and does not allow retries. -/
theorem policy_of_enforced {mutation : MutationRun context Stream T}
    (haccepted : mutation.enforced = .ok ()) :
    ∃ policy, mutation.service.mutation.policy = some policy ∧
      policy.idempotency.allowsRetry = false := by
  obtain ⟨policy, -, hpolicy, -⟩ := confirmation_of_enforceMutationPolicy haccepted
  rw [enforced, hpolicy] at haccepted
  exact ⟨policy, hpolicy, allowsRetry_of_enforceMutationPolicy haccepted⟩

/-- The requests of a mutation change something. -/
theorem mutating_of_map {request : Except Raised MutatingRequest} {route : MutationRequest}
    (hroute : request.map MutatingRequest.toMutationRequest = .ok route) :
    route.method ∉ readMethods := by
  obtain ⟨prepared, -, rfl⟩ := map_eq_ok hroute
  exact prepared.mutating

theorem completed_spec (writer : context.ReceiptWriter) (shape : ResultShape context Payload T)
    (locate : Payload → Except Raised Text)
    (hlocate : ∀ payload error, locate payload = .error error → Uncoded error)
    (result : CallResult) :
    (∀ value, completed writer shape locate result = .ok value →
      (shape.receipt value).outcome = .succeeded) ∧
    ∀ error, completed writer shape locate result = .error error → Uncoded error := by
  unfold completed
  cases htarget : locate result.payload with
  | error error =>
      refine ⟨nofun, fun other hother => ?_⟩
      cases hother
      exact hlocate _ _ htarget
  | ok target =>
      obtain ⟨receipt, hreceipt, houtcome⟩ :=
        writer.writes target .succeeded (.int result.statusCode) rfl
      simp only [bind, Except.bind, hreceipt]
      constructor
      · intro value hvalue
        rw [shape.receipt_build hvalue]
        exact houtcome
      · exact fun error herror => shape.uncoded herror

section Ends

variable {call : DatasetCall Stream → CallEffect Stream Locals CallResult}
  (hreliable : Reliable environment) (hcall : SendsOnce environment client call)

include hreliable hcall

/-- What a mutation returns and raises that runs through `_run_mutation`. -/
theorem ends_run (service : ServiceMutation context Stream)
    (shape : ResultShape context (Option Value) T) (request : Except Raised MutatingRequest)
    (successTarget : Option (Payload → Text))
    (haccepted : (run service shape request successTarget).enforced = .ok ()) :
    Effect.Ends Unsent
      ((run service shape request successTarget).program settles guardsCredential environment
        call)
      (fun value world => (dispatches world.history).length ≤ 1 ∧
        Honest (shape.receipt value).outcome world)
      (ToldTrue context settles false service.dispatch client) := by
  obtain ⟨policy, hpolicy, hretry⟩ := policy_of_enforced haccepted
  have hwritten : ∀ error response, ∃ receipt,
      context.failureReceipt service.mutation response error = .ok receipt ∧
        receipt.outcome = failedOutcome false error response := by
    intro error response
    rw [failedOutcome, if_neg fun h => nomatch h.1]
    exact context.exists_receipt service.recorded _ _ (isSome_errorStatus error response)
  unfold program
  simp only [hpolicy]
  rw [context.runMutation_eq]
  apply Effect.Ends.bind (R := fun prepared world =>
    request.map MutatingRequest.toMutationRequest = .ok prepared ∧ Unsent world)
  · apply context.ends_settling
    apply Effect.Ends.ofExcept
    · exact fun prepared hprepared world hunsent => ⟨hprepared, hunsent⟩
    · intro error _ world hunsent
      exact toldTrue_of_unsent (context.exists_receipt service.recorded _ .rejected
        (isSome_errorStatus error none)) Outcome.noConfusion hunsent
  intro prepared
  apply Effect.Ends.assume fun _ hworld => hworld.1
  intro hprepared
  have hmutating : ∀ route, Except.ok prepared = .ok route → route.method ∉ readMethods :=
    fun route hroute => mutating_of_map (hprepared.trans hroute)
  apply context.ends_runReceiptedMutation (R := MutationDispatch.Succeeded)
  · exact haccepted
  · exact (MutationDispatch.ends_send hcall hretry hmutating).weaken
      (fun _ hworld => hworld.2) (fun _ _ => id) fun _ _ => id
  · exact fun error world hraises =>
      toldTrue_of_raises hreliable (hwritten error none) hraises
  · exact fun result error world hsucceeded herror => toldTrue_of_succeeded
      (hwritten error _) hsucceeded (uncoded_succeeded service.recorded shape herror)
  · exact fun result value world hsucceeded hvalue => ⟨hsucceeded.1.length_le,
      honest_of_succeeded hsucceeded (succeeded_receipt shape hvalue)⟩

/-- What a mutation returns and raises that runs through `_run_receipted_mutation`. -/
theorem ends_receipted (service : ServiceMutation context Stream) (writer : context.ReceiptWriter)
    (shape : ResultShape context Payload T) (request : Except Raised MutatingRequest)
    (locate : Payload → Except Raised Text)
    (hlocate : ∀ payload error, locate payload = .error error → Uncoded error)
    (enforcesFirst uploadsResource : Bool)
    (haccepted : (receipted service writer shape request locate hlocate enforcesFirst
      uploadsResource).enforced = .ok ()) :
    Effect.Ends Unsent
      ((receipted service writer shape request locate hlocate enforcesFirst
        uploadsResource).program settles guardsCredential environment call)
      (fun value world => (dispatches world.history).length ≤ 1 ∧
        Honest (shape.receipt value).outcome world)
      (ToldTrue context settles uploadsResource service.dispatch client) := by
  obtain ⟨policy, hpolicy, hretry⟩ := policy_of_enforced haccepted
  have hspec := completed_spec writer shape locate hlocate
  unfold program
  simp only [hpolicy, haccepted]
  apply context.ends_runReceiptedMutation (R := MutationDispatch.Succeeded)
  · cases enforcesFirst with
    | true => rfl
    | false => rfl
  · apply MutationDispatch.ends_send hcall hretry
    intro route hroute
    cases enforcesFirst with
    | true => exact mutating_of_map hroute
    | false => exact mutating_of_map hroute
  · exact fun error world hraises => toldTrue_of_raises hreliable
      (writer.writes _ _ _ (isSome_errorStatus error none)) hraises
  · exact fun result error world hsucceeded herror => toldTrue_of_succeeded
      (writer.writes _ _ _ (isSome_errorStatus error _)) hsucceeded
      ((hspec result).2 error herror)
  · exact fun result value world hsucceeded hvalue => ⟨hsucceeded.1.length_le,
      honest_of_succeeded hsucceeded ((hspec result).1 value hvalue)⟩

/-- What a mutation returns and raises, on either path. -/
theorem ends_program (mutation : MutationRun context Stream T)
    (haccepted : mutation.enforced = .ok ()) :
    Effect.Ends Unsent (mutation.program settles guardsCredential environment call)
      (fun value world => (dispatches world.history).length ≤ 1 ∧
        Honest (mutation.receiptOf value).outcome world)
      (ToldTrue context settles mutation.uploadsResource mutation.service.dispatch client) := by
  cases mutation with
  | run service shape request successTarget =>
      exact ends_run hreliable hcall service shape request successTarget haccepted
  | receipted service writer shape request locate located enforcesFirst uploadsResource =>
      exact ends_receipted hreliable hcall service writer shape request locate located
        enforcesFirst uploadsResource haccepted

end Ends

/-- Where the clock, the breakers, the capability cache and the event sinks do not raise, what the
receipts of a mutation with an accepted policy say is borne out exactly in those runs in which
what the send raises, if it raises, leaves the mutation open. -/
theorem receipts_truthful_iff (environment : CallEnvironment Stream) (client : UDataClient)
    (mutation : MutationRun context Stream T) (hreliable : Reliable environment)
    (haccepted : mutation.enforced = .ok ()) :
    Effect.Ends Unsent (mutation.sync environment client)
        (fun value world => (dispatches world.history).length ≤ 1 ∧
          Honest (mutation.receiptOf value).outcome world)
        (fun failure world => Truthful settlementErrors failure world ↔
          SendsLeaveOpen settlementErrors mutation.uploadsResource
            (mutation.guarded settlementErrors) client world) ∧
      Effect.Ends Unsent (mutation.async environment client)
        (fun value world => (dispatches world.history).length ≤ 1 ∧
          Honest (mutation.receiptOf value).outcome world)
        (fun failure world => Truthful asyncSettlementErrors failure world ↔
          SendsLeaveOpen asyncSettlementErrors mutation.uploadsResource
            (mutation.guarded asyncSettlementErrors) client world) :=
  ⟨ends_program hreliable (sendsOnce_datasetCall environment client) mutation haccepted,
    ends_program hreliable (sendsOnce_datasetCallAsync environment client) mutation haccepted⟩

end MutationRun

/-! ## A send that raises another exception -/

/-- A policy that is confirmed for running the source. -/
def confirmedRun : MutationPolicy where
  destructive := false
  confirmation := some
    { confirmed := true
      operation := some harvestOperation
      target := some shortId
      operation_ne := harvestOperation_some_ne
      target_ne := some_ne_some_nil shortId_ne }
  concurrency := some overwritePolicy
  idempotency := { key_ne := IdempotencyPolicy.none_ne_empty }
  dryRun := ⟨false⟩

theorem post_mutates : "POST".toList ∉ readMethods := by decide

theorem recorded_run : plainContext.Recorded
    (bulkMutation .runSource shortId (some confirmedRun)) where
  operation := ⟨harvestId, rfl⟩
  name := rfl

/-- `run_source` of the harvest service, with its receipt as the result. -/
def runSource : MutationRun plainContext Unit plainContext.Receipt :=
  .run
    { mutation := bulkMutation .runSource shortId (some confirmedRun)
      recorded := recorded_run
      dispatch :=
        { operation := harvestOperation
          permissions := some adminPermissions
          admin := true } }
    { build := fun receipt _ => .ok receipt
      receipt := id
      receipt_build := fun hbuild => Except.ok.inj hbuild.symm
      uncoded := nofun }
    (.ok
      { method := "POST".toList
        path := "/api/1/harvest/source/source/run/".toList
        mutating := post_mutates })
    none

/-- No time passes, and the send raises. -/
def raisingEnvironment (raised : Raised) : CallEnvironment Unit
  | _, .send _ | _, .dispatchControlled _ _ _ => .error raised
  | history, op => calmEnvironment history op

theorem reliable_raising (raised : Raised) : Reliable (raisingEnvironment raised) := by
  intro history op error hservice
  cases op with
  | send _ | dispatchControlled _ _ _ => cases hservice
  | _ => exact nofun

/-- A mutation whose send is refused by the transport. -/
theorem receipts_truthful_refused :
    Effect.Ends Unsent
      (runSource.sync (raisingEnvironment (.transportError "refused")) localClient)
        (fun value world => (dispatches world.history).length ≤ 1 ∧
          Honest (runSource.receiptOf value).outcome world)
        (fun failure world => Truthful settlementErrors failure world ↔
          SendsLeaveOpen settlementErrors runSource.uploadsResource
            (runSource.guarded settlementErrors) localClient world) :=
  (MutationRun.receipts_truthful_iff (raisingEnvironment (.transportError "refused")) localClient
    runSource (reliable_raising _) rfl).1

/-- How the mutation ends when the send raises a `RuntimeError`. -/
def brokenRun : Except plainContext.Error plainContext.Receipt × CallWorld Unit RequestAttempt :=
  runSource.sync (raisingEnvironment (.runtimeError "broken")) localClient ⟨[], {}⟩

/-- The outcome on the receipt of an exception. -/
def failureOutcome : Except plainContext.Error plainContext.Receipt → Option Outcome
  | .ok _ => none
  | .error failure => failure.receipt.map MutationReceipt.outcome

/-- The receipt of a mutation says that it failed although its send was started and nothing was
received. -/
theorem failed_without_answer :
    ¬ ∀ (environment : CallEnvironment Unit) (client : UDataClient)
        (mutation : MutationRun plainContext Unit plainContext.Receipt), Reliable environment →
        mutation.enforced = .ok () →
          Effect.Ends Unsent (mutation.sync environment client)
            (fun value world => (dispatches world.history).length ≤ 1 ∧
              Honest (mutation.receiptOf value).outcome world)
            (Truthful settlementErrors) := by
  intro hclaim
  have hends := hclaim (raisingEnvironment (.runtimeError "broken")) localClient runSource
    (reliable_raising _) rfl ⟨[], {}⟩ rfl
  have hfailed : failureOutcome brokenRun.1 = some .failed := by decide +kernel
  have hsent : (dispatches brokenRun.2.history).map
      (fun dispatched => dispatched.answer.toOption.isSome) = [false] := by decide +kernel
  cases hresult : brokenRun.1 with
  | ok receipt =>
      rw [hresult] at hfailed
      cases hfailed
  | error failure =>
      have htruthful := hends.2 failure brokenRun.2 (Prod.ext hresult rfl)
      rw [hresult] at hfailed
      obtain ⟨receipt, hreceipt, houtcome⟩ := Option.map_eq_some_iff.mp hfailed
      rcases (htruthful.honest receipt hreceipt).failed houtcome with
        hunsent | ⟨dispatched, hdispatches, response, hanswer, -⟩
      · rw [Unsent] at hunsent
        rw [hunsent] at hsent
        cases hsent
      · rw [hdispatches, List.map_singleton, hanswer] at hsent
        cases hsent

end DataSluice.Catalog.Udata
