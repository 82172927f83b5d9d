/-
# Validated redirects

`follow_redirects` sends a request, and goes where its answer redirects it, at most ten times.
Each target is validated before it is sent to, with the name service asked at that moment, and
each response that is not returned is given back before anything else happens.

What sends, what discards and what the name service says is the environment.
-/

import Mathlib.Data.List.Chain
import DataSluice.Domain.HttpTarget
import DataSluice.Domain.Uri
import DataSluice.Lib.Effect

namespace DataSluice.Io

open DataSluice.Lib DataSluice.Lib.Url DataSluice.Domain

/-! ## The loop -/

/-- `_REDIRECT_STATUSES` -/
def redirectStatuses : List Int := [301, 302, 303, 307, 308]

/-- `_MAX_HOPS` -/
def maxHops : Nat := 10

/-- What `RuntimeResponse` and `RuntimeStreamResponse` have in common, and the rest. -/
structure HttpResponse (Payload : Type) where
  statusCode : Int
  headers : List (Text × Text)
  payload : Payload

/-- What `follow_redirects` raises: an exception of the class it is given, with one of these
messages behind the label. -/
inductive RedirectFault
  | /-- `target is invalid (…)` -/
    invalidTarget (label : String) (reason : String)
  | /-- `for … returned HTTP …` -/
    status (label : String) (shown : String) (statusCode : Int)
  | /-- `for … exceeded its redirect limit` -/
    redirectLimit (label : String) (shown : String)
  | /-- `for … returned an unusable redirect Location (…)` -/
    unusableLocation (label : String) (shown : String) (reason : String)
  deriving DecidableEq

variable {Payload State Error : Type}

namespace HttpResponse

/-- `200 <= response.status_code < 300` -/
def isSuccess (response : HttpResponse Payload) : Bool :=
  decide (200 ≤ response.statusCode ∧ response.statusCode < 300)

/-- `headers["location"]`, where the names of the headers are lowered and the last one counts. -/
def location (unicode : UnicodeData) (response : HttpResponse Payload) : Option Text :=
  (response.headers.reverse.find? fun header => unicode.lower header.1 == "location".toList).map
    Prod.snd

/-- Where the response redirects to. -/
def redirection (unicode : UnicodeData) (response : HttpResponse Payload) : Option Text :=
  if redirectStatuses.contains response.statusCode then response.location unicode else none

end HttpResponse

/-- What `follow_redirects` calls, and what it is given to say. -/
structure Following (Payload State Error : Type) where
  allowPrivate : Bool
  label : String
  /-- The exception of the class `error`. -/
  error : RedirectFault → Error
  /-- `AssertionError("unreachable")` -/
  unreachable : Error
  /-- The name service, as `validate_http_target` finds it. -/
  lookup : Effect State Error NameService
  send : Text → Effect State Error (HttpResponse Payload)
  onDiscard : Option (HttpResponse Payload → Effect State Error Unit)

/-- The text of a URL in messages. -/
def shown (unicode : UnicodeData) (url : Text) : String := sanitizeUri unicode (String.ofList url)

namespace Following

variable (unicode : UnicodeData) (addresses : AddressData) (following : Following Payload State Error)

/-- `on_discard(response)`, when there is one -/
def discard (response : HttpResponse Payload) : Effect State Error Unit :=
  match following.onDiscard with
  | none => pure ()
  | some onDiscard => onDiscard response

/-- Where a response that is no success sends to, unless this hop is the last one. -/
def nextUrl (last : Bool) (url : Text) (response : HttpResponse Payload) :
    Except RedirectFault Text :=
  match response.redirection unicode with
  | none => .error (.status following.label (shown unicode url) response.statusCode)
  | some location =>
      if last then .error (.redirectLimit following.label (shown unicode url))
      else
        match urljoin unicode url location with
        | .error reason =>
            .error (.unusableLocation following.label (shown unicode url) reason.message)
        | .ok next => .ok next

/-- The test of a target with the name service as it is now. -/
def target (names : NameService) (url : Text) : Except RedirectFault Text :=
  match validateHttpTarget unicode addresses following.allowPrivate (some names) url with
  | .error reason => .error (.invalidTarget following.label reason.message)
  | .ok url => .ok url

/-- An exception of the class `error`. -/
def failing {α : Type} (result : Except RedirectFault α) : Effect State Error α :=
  Effect.ofExcept (result.mapError following.error)

/-- One iteration: a response to return, or the URL to go on with. -/
def visit (last : Bool) (url : Text) : Effect State Error (HttpResponse Payload ⊕ Text) := do
  let names ← following.lookup
  let _ ← following.failing (following.target unicode addresses names url)
  let response ← following.send url
  if response.isSuccess then return .inl response
  following.discard response
  let next ← following.failing (following.nextUrl unicode last url response)
  return .inr next

/-- The loop with so many iterations left. -/
def followFrom : Nat → Text → Effect State Error (HttpResponse Payload)
  | 0, _ => Effect.raise following.unreachable
  | remaining + 1, url => do
      match ← following.visit unicode addresses (remaining == 0) url with
      | .inl response => return response
      | .inr next => followFrom remaining next

/-- `follow_redirects` -/
def followRedirects (url : Text) : Effect State Error (HttpResponse Payload) :=
  following.followFrom unicode addresses (maxHops + 1) url

section Rules

variable {unicode addresses following} {P : State → Prop}
  {Q : HttpResponse Payload → State → Prop} {E : Error → State → Prop}
  (hlookup : Effect.Ends P following.lookup (fun _ => P) E)
  (hsend : ∀ url, Effect.Ends P (following.send url)
    (fun response state => if response.isSuccess then Q response state else P state) E)
  (hdiscard : ∀ response, Effect.Ends P (following.discard response) (fun _ => P) E)
  (hfault : ∀ fault state, P state → E (following.error fault) state)

include hlookup hsend hdiscard hfault

theorem ends_visit (last : Bool) (url : Text) :
    Effect.Ends P (following.visit unicode addresses last url)
      (fun reached state => reached.elim (fun response => Q response state) fun _ => P state) E := by
  have hfailing : ∀ {α : Type} (result : Except RedirectFault α),
      Effect.Ends P (following.failing result) (fun _ => P) E := by
    intro α result
    cases result with
    | ok value => exact Effect.Ends.pure fun _ h => h
    | error fault => exact Effect.Ends.raise fun state h => hfault fault state h
  refine Effect.Ends.bind hlookup fun names => ?_
  refine Effect.Ends.bind (hfailing _) fun _ => ?_
  refine Effect.Ends.bind (hsend url) fun response => ?_
  refine Effect.Ends.ite (fun hsuccess => ?_) fun hother => ?_
  · refine Effect.Ends.pure fun state h => ?_
    rwa [if_pos hsuccess] at h
  · simp only [if_neg hother]
    refine Effect.Ends.bind (hdiscard response) fun _ => ?_
    refine Effect.Ends.bind (hfailing _) fun _ => ?_
    exact Effect.Ends.pure fun _ h => h

/-- What every call keeps until a response is a success, the loop keeps until it returns. -/
theorem ends_followFrom (hunreachable : ∀ state, P state → E following.unreachable state)
    (remaining : Nat) (url : Text) :
    Effect.Ends P (following.followFrom unicode addresses remaining url) Q E := by
  induction remaining generalizing url with
  | zero => exact Effect.Ends.raise hunreachable
  | succ remaining ih =>
      refine Effect.Ends.bind (ends_visit hlookup hsend hdiscard hfault _ url) fun reached => ?_
      cases reached with
      | inl response => exact Effect.Ends.pure fun _ h => h
      | inr next => exact ih next

end Rules

end Following

/-! ## Its calls -/

/-- What the loop calls outside. -/
inductive RedirectOp (Payload : Type)
  | /-- `socket.getaddrinfo`, as it answers now -/
    lookup
  | /-- `send` -/
    send (url : Text)
  | /-- `on_discard` -/
    discard (response : HttpResponse Payload)

@[reducible] def RedirectOp.Reply : RedirectOp Payload → Type
  | .lookup => NameService
  | .send _ => HttpResponse Payload
  | .discard _ => Unit

/-- A call returns or raises. -/
abbrev RedirectOp.Answer (Error : Type) (op : RedirectOp Payload) : Type := Except Error op.Reply

abbrev RedirectHistory (Payload Error : Type) : Type :=
  List (Happening (RedirectOp.Answer Error : RedirectOp Payload → Type))

abbrev RedirectWorld (Payload Error : Type) : Type :=
  World (RedirectOp.Answer Error : RedirectOp Payload → Type) Unit

/-- The settings of a call of `follow_redirects`. -/
structure RedirectSettings (Error : Type) where
  allowPrivate : Bool
  label : String
  error : RedirectFault → Error
  unreachable : Error
  /-- Whether there is an `on_discard`. -/
  discards : Bool

/-- The calls are answered by an environment. -/
def RedirectSettings.following (settings : RedirectSettings Error)
    (environment : Environment (RedirectOp.Answer Error : RedirectOp Payload → Type)) :
    Following Payload (RedirectWorld Payload Error) Error where
  allowPrivate := settings.allowPrivate
  label := settings.label
  error := settings.error
  unreachable := settings.unreachable
  lookup := ask environment .lookup
  send url := ask environment (.send url)
  onDiscard := if settings.discards then some fun response => ask environment (.discard response)
    else none

/-! ## What a history shows -/

section Histories

/-- A request and its answer. -/
def exchange : Happening (RedirectOp.Answer Error : RedirectOp Payload → Type) →
    Option (Text × Except Error (HttpResponse Payload))
  | ⟨.send url, answer⟩ => some (url, answer)
  | _ => none

/-- The response that a call brought. -/
def receivedResponse : Happening (RedirectOp.Answer Error : RedirectOp Payload → Type) →
    Option (HttpResponse Payload)
  | ⟨.send _, .ok response⟩ => some response
  | _ => none

/-- The response that a call gave back, also when the call raised. -/
def discardedResponse : Happening (RedirectOp.Answer Error : RedirectOp Payload → Type) →
    Option (HttpResponse Payload)
  | ⟨.discard response, _⟩ => some response
  | _ => none

variable (history : RedirectHistory Payload Error)

def exchanges : List (Text × Except Error (HttpResponse Payload)) := history.filterMap exchange

def receivedResponses : List (HttpResponse Payload) := history.filterMap receivedResponse

def discardedResponses : List (HttpResponse Payload) := history.filterMap discardedResponse

variable (unicode : UnicodeData) (addresses : AddressData) (settings : RedirectSettings Error)

/-- The request is answered with a redirection to this URL. -/
def RedirectsTo (request : Text × Except Error (HttpResponse Payload)) (next : Text) : Prop :=
  ∃ response location, request.2 = .ok response ∧ response.redirection unicode = some location ∧
    urljoin unicode request.1 location = .ok next

/-- Just before every request the name service was asked, and with what it said the target was
accepted. -/
def Guarded : Prop :=
  ∀ front url answer rest, history = front ++ ⟨.send url, answer⟩ :: rest →
    ∃ before names, front = before ++ [⟨.lookup, .ok names⟩] ∧
      validateHttpTarget unicode addresses settings.allowPrivate (some names) url = .ok url ∧
      (settings.allowPrivate = false → IsPublicTarget unicode addresses (some names) url)

/-- How a call of the loop with so many iterations left, started at a URL, may have gone. -/
structure Confined (remaining : Nat) (first : Text)
    (result : Except Error (HttpResponse Payload)) : Prop where
  guarded : Guarded history unicode addresses settings
  few : (exchanges history).length ≤ remaining
  starts : ∀ request ∈ (exchanges history).head?, request.1 = first
  chained : (exchanges history).IsChain fun request next => RedirectsTo unicode request next.1
  returned : ∀ response, result = .ok response →
    response.isSuccess = true ∧ ∃ front url, history = front ++ [⟨.send url, .ok response⟩]
  givenBack : settings.discards = true →
    receivedResponses history = discardedResponses history ++ result.toOption.toList
  raised : ∀ error, result = .error error → (∃ fault, error = settings.error fault) ∨
    (remaining = 0 ∧ error = settings.unreachable) ∨
      ∃ op, (⟨op, .error error⟩ : Happening (RedirectOp.Answer Error)) ∈ history

end Histories

/-! ## One iteration -/

section Runs

variable {unicode : UnicodeData} {addresses : AddressData} {settings : RedirectSettings Error}
  {environment : Environment (RedirectOp.Answer Error : RedirectOp Payload → Type)}

/-- What `on_discard` leaves in a history when it returns. -/
def givenBackTo (settings : RedirectSettings Error) (response : HttpResponse Payload) :
    RedirectHistory Payload Error :=
  if settings.discards then [⟨.discard response, .ok ()⟩] else []

/-- How an iteration at a URL may go. -/
inductive Visited (unicode : UnicodeData) (addresses : AddressData)
    (settings : RedirectSettings Error) (last : Bool) (url : Text) :
    RedirectHistory Payload Error → Except Error (HttpResponse Payload ⊕ Text) → Prop
  | unasked (error : Error) :
      Visited unicode addresses settings last url [⟨.lookup, .error error⟩] (.error error)
  | invalid (names : NameService) (fault : RedirectFault) :
      Visited unicode addresses settings last url [⟨.lookup, .ok names⟩] (.error (settings.error fault))
  | unsent (names : NameService) (error : Error)
      (hvalid : validateHttpTarget unicode addresses settings.allowPrivate (some names) url =
        .ok url) :
      Visited unicode addresses settings last url
        [⟨.lookup, .ok names⟩, ⟨.send url, .error error⟩] (.error error)
  | returned (names : NameService) (response : HttpResponse Payload)
      (hvalid : validateHttpTarget unicode addresses settings.allowPrivate (some names) url =
        .ok url) (hsuccess : response.isSuccess = true) :
      Visited unicode addresses settings last url
        [⟨.lookup, .ok names⟩, ⟨.send url, .ok response⟩] (.ok (.inl response))
  | undiscarded (names : NameService) (response : HttpResponse Payload) (error : Error)
      (hvalid : validateHttpTarget unicode addresses settings.allowPrivate (some names) url =
        .ok url) :
      Visited unicode addresses settings last url
        [⟨.lookup, .ok names⟩, ⟨.send url, .ok response⟩, ⟨.discard response, .error error⟩]
        (.error error)
  | refused (names : NameService) (response : HttpResponse Payload) (fault : RedirectFault)
      (hvalid : validateHttpTarget unicode addresses settings.allowPrivate (some names) url =
        .ok url) :
      Visited unicode addresses settings last url
        ([⟨.lookup, .ok names⟩, ⟨.send url, .ok response⟩] ++ givenBackTo settings response)
        (.error (settings.error fault))
  | redirected (names : NameService) (response : HttpResponse Payload) (next : Text)
      (hvalid : validateHttpTarget unicode addresses settings.allowPrivate (some names) url =
        .ok url) (hlast : last = false)
      (hnext : RedirectsTo unicode (url, (.ok response : Except Error _)) next) :
      Visited unicode addresses settings last url
        ([⟨.lookup, .ok names⟩, ⟨.send url, .ok response⟩] ++ givenBackTo settings response)
        (.ok (.inr next))

theorem target_eq_ok {names : NameService} {url returned : Text}
    (h : (settings.following environment).target unicode addresses names url = .ok returned) :
    validateHttpTarget unicode addresses settings.allowPrivate (some names) url = .ok url := by
  unfold Following.target at h
  split at h
  · cases h
  · next valid hvalid =>
      rw [validateHttpTarget_eq hvalid] at hvalid
      exact hvalid

theorem redirectsTo_of_nextUrl {last : Bool} {url next : Text} {response : HttpResponse Payload}
    (h : (settings.following environment).nextUrl unicode last url response = .ok next) :
    last = false ∧ RedirectsTo unicode (url, (.ok response : Except Error _)) next := by
  unfold Following.nextUrl at h
  split at h
  · cases h
  · next location hlocation =>
      split_ifs at h with hlast
      split at h
      · cases h
      · next joined hjoined =>
          cases h
          exact ⟨Bool.not_eq_true _ ▸ hlast, response, location, rfl, hlocation, hjoined⟩

theorem failing_run {α : Type} (result : Except RedirectFault α)
    (world : RedirectWorld Payload Error) :
    (settings.following environment).failing result world =
      (result.mapError settings.error, world) :=
  Effect.ofExcept_run _ _

theorem discard_eq (response : HttpResponse Payload) :
    (settings.following environment).discard response =
      if settings.discards then ask environment (.discard response) else pure () := by
  unfold Following.discard RedirectSettings.following
  cases settings.discards <;> rfl

variable (settings environment) in
theorem discard_run (response : HttpResponse Payload) (world : RedirectWorld Payload Error) :
    (∃ error, (settings.following environment).discard response world =
        (.error error, { world with
          history := world.history ++ [⟨.discard response, .error error⟩] })) ∨
      (settings.following environment).discard response world =
        (.ok (), { world with history := world.history ++ givenBackTo settings response }) := by
  rw [discard_eq, givenBackTo]
  split
  · rw [ask_run]
    cases hanswer : environment world.history (.discard response) with
    | error error => exact .inl ⟨error, rfl⟩
    | ok done => exact .inr rfl
  · right
    rw [Effect.pure_run, List.append_nil]

variable (unicode addresses settings environment) in
theorem visit_run (last : Bool) (url : Text) (world : RedirectWorld Payload Error) :
    ∃ history result, Visited unicode addresses settings last url history result ∧
      (settings.following environment).visit unicode addresses last url world =
        (result, { world with history := world.history ++ history }) := by
  have hlookup : (settings.following environment).lookup = ask environment .lookup := rfl
  have hsend : (settings.following environment).send url = ask environment (.send url) := rfl
  rw [Following.visit, Effect.bind_run, hlookup, ask_run]
  cases hnames : environment world.history .lookup with
  | error error => exact ⟨_, _, .unasked error, rfl⟩
  | ok names =>
      simp only
      rw [Effect.bind_run, failing_run]
      cases hvalid : (settings.following environment).target unicode addresses names url with
      | error fault => exact ⟨_, _, .invalid names fault, rfl⟩
      | ok valid =>
          have hvalid := target_eq_ok hvalid
          simp only [Except.mapError]
          rw [Effect.bind_run, hsend, ask_run]
          cases hanswer : environment _ (.send url) with
          | error error =>
              refine ⟨_, _, .unsent names error hvalid, ?_⟩
              simp
          | ok response =>
              simp only
              cases hsuccess : response.isSuccess with
              | true =>
                  refine ⟨_, _, .returned names response hvalid hsuccess, ?_⟩
                  simp
              | false =>
                  rw [if_neg Bool.false_ne_true, Effect.bind_run]
                  rcases discard_run settings environment response
                    { world with history := world.history ++ [⟨.lookup, .ok names⟩] ++
                        [⟨.send url, .ok response⟩] } with ⟨error, hrun⟩ | hrun
                  · rw [hrun]
                    refine ⟨_, _, .undiscarded names response error hvalid, ?_⟩
                    simp
                  · rw [hrun]
                    simp only
                    rw [Effect.bind_run, failing_run]
                    cases hnext : (settings.following environment).nextUrl unicode last url
                        response with
                    | error fault =>
                        refine ⟨_, _, .refused names response fault hvalid, ?_⟩
                        simp [Except.mapError]
                    | ok next =>
                        obtain ⟨hlast, hredirects⟩ := redirectsTo_of_nextUrl hnext
                        refine ⟨_, _, .redirected names response next hvalid hlast hredirects, ?_⟩
                        simp [Except.mapError]

/-! ## The whole loop -/

theorem guarded_nil : Guarded ([] : RedirectHistory Payload Error) unicode addresses settings :=
  fun _ _ _ _ h => absurd h.symm (List.append_ne_nil_of_right_ne_nil _ (List.cons_ne_nil _ _))

/-- A call that sends nothing needs no guard. -/
theorem Guarded.quiet {rest : RedirectHistory Payload Error}
    {happening : Happening (RedirectOp.Answer Error : RedirectOp Payload → Type)}
    (hrest : Guarded rest unicode addresses settings) (hquiet : exchange happening = none) :
    Guarded (happening :: rest) unicode addresses settings := by
  intro front url answer later heq
  cases front with
  | nil =>
      rw [List.nil_append, List.cons.injEq] at heq
      rw [heq.1] at hquiet
      cases hquiet
  | cons first front =>
      rw [List.cons_append, List.cons.injEq] at heq
      obtain ⟨before, names, hfront, hvalid⟩ := hrest front url answer later heq.2
      exact ⟨first :: before, names, by rw [hfront, List.cons_append], hvalid⟩

/-- A request that was looked up and accepted. -/
theorem Guarded.exchange {rest : RedirectHistory Payload Error} {names : NameService} {url : Text}
    (hrest : Guarded rest unicode addresses settings)
    (hvalid : validateHttpTarget unicode addresses settings.allowPrivate (some names) url = .ok url)
    (answer : Except Error (HttpResponse Payload)) :
    Guarded (⟨.lookup, .ok names⟩ :: ⟨.send url, answer⟩ :: rest) unicode addresses settings := by
  intro front other reply later heq
  match front, heq with
  | [], heq =>
      rw [List.nil_append, List.cons.injEq] at heq
      cases heq.1
  | [first], heq =>
      rw [List.cons_append, List.nil_append, List.cons.injEq, List.cons.injEq] at heq
      obtain ⟨hfirst, hsecond, -⟩ := heq
      cases hsecond
      refine ⟨[], names, by rw [hfirst]; rfl, hvalid, fun hpublic => ?_⟩
      rw [hpublic] at hvalid
      exact isPublicTarget_of_validate hvalid
  | first :: second :: front, heq =>
      rw [List.cons_append, List.cons_append, List.cons.injEq, List.cons.injEq] at heq
      obtain ⟨before, found, hfront, haccepted⟩ := hrest front other reply later heq.2.2
      exact ⟨first :: second :: before, found, by rw [hfront]; rfl, haccepted⟩

theorem guarded_givenBackTo {rest : RedirectHistory Payload Error}
    (hrest : Guarded rest unicode addresses settings) (response : HttpResponse Payload) :
    Guarded (givenBackTo settings response ++ rest) unicode addresses settings := by
  unfold givenBackTo
  split
  · exact hrest.quiet rfl
  · exact hrest

namespace Visited

variable {last : Bool} {url : Text} {history rest : RedirectHistory Payload Error}
  {result : Except Error (HttpResponse Payload ⊕ Text)}
  (hvisited : Visited unicode addresses settings last url history result)

include hvisited

theorem guarded (hrest : Guarded rest unicode addresses settings) :
    Guarded (history ++ rest) unicode addresses settings := by
  cases hvisited with
  | unasked error => exact hrest.quiet rfl
  | invalid names fault => exact hrest.quiet rfl
  | unsent names error hvalid => exact hrest.exchange hvalid _
  | returned names response hvalid hsuccess => exact hrest.exchange hvalid _
  | undiscarded names response error hvalid => exact (hrest.quiet rfl).exchange hvalid _
  | refused names response fault hvalid =>
      rw [List.append_assoc]
      exact (guarded_givenBackTo hrest response).exchange hvalid _
  | redirected names response next hvalid hlast hnext =>
      rw [List.append_assoc]
      exact (guarded_givenBackTo hrest response).exchange hvalid _

/-- An iteration sends one request at most, to its URL. -/
theorem exchanges_eq : exchanges history = [] ∨ ∃ answer, exchanges history = [(url, answer)] := by
  have hquiet : ∀ response : HttpResponse Payload,
      exchanges (givenBackTo settings response : RedirectHistory Payload Error) = [] := by
    intro response
    unfold givenBackTo
    split <;> rfl
  cases hvisited with
  | unasked error => exact .inl rfl
  | invalid names fault => exact .inl rfl
  | unsent names error hvalid => exact .inr ⟨_, rfl⟩
  | returned names response hvalid hsuccess => exact .inr ⟨_, rfl⟩
  | undiscarded names response error hvalid => exact .inr ⟨_, rfl⟩
  | refused names response fault hvalid =>
      refine .inr ⟨.ok response, ?_⟩
      rw [exchanges, List.filterMap_append, ← exchanges, ← exchanges, hquiet]
      rfl
  | redirected names response next hvalid hlast hnext =>
      refine .inr ⟨.ok response, ?_⟩
      rw [exchanges, List.filterMap_append, ← exchanges, ← exchanges, hquiet]
      rfl

/-- A response that an iteration does not return, it gives back. -/
theorem givenBack (hdiscards : settings.discards = true) :
    receivedResponses history = discardedResponses history ++
      (result.toOption.bind Sum.getLeft?).toList := by
  cases hvisited with
  | unasked | invalid | unsent | returned | undiscarded => rfl
  | refused names response fault hvalid | redirected names response next hvalid hlast hnext =>
      rw [givenBackTo, if_pos hdiscards]
      rfl

/-- Where an exception of an iteration comes from. -/
theorem raised {error : Error} (hresult : result = .error error) :
    (∃ fault, error = settings.error fault) ∨
      ∃ op, (⟨op, .error error⟩ : Happening (RedirectOp.Answer Error)) ∈ history := by
  cases hvisited with
  | unasked =>
      cases hresult
      exact .inr ⟨.lookup, List.mem_cons_self⟩
  | unsent =>
      cases hresult
      exact .inr ⟨.send url, List.mem_cons_of_mem _ List.mem_cons_self⟩
  | undiscarded names response =>
      cases hresult
      exact .inr ⟨.discard response,
        List.mem_cons_of_mem _ (List.mem_cons_of_mem _ List.mem_cons_self)⟩
  | invalid names fault =>
      cases hresult
      exact .inl ⟨fault, rfl⟩
  | refused names response fault =>
      cases hresult
      exact .inl ⟨fault, rfl⟩
  | returned | redirected => cases hresult

/-- An iteration that returns ends with the request that it returns the response of. -/
theorem returns {response : HttpResponse Payload} (hresult : result = .ok (.inl response)) :
    response.isSuccess = true ∧ ∃ front, history = front ++ [⟨.send url, .ok response⟩] := by
  cases hvisited with
  | returned names found hvalid hsuccess =>
      cases hresult
      exact ⟨hsuccess, [⟨.lookup, .ok names⟩], rfl⟩
  | unasked | invalid | unsent | undiscarded | refused | redirected => cases hresult

/-- An iteration that goes on was redirected. -/
theorem redirects {next : Text} (hresult : result = .ok (.inr next)) :
    last = false ∧ ∃ answer, exchanges history = [(url, answer)] ∧
      RedirectsTo unicode (url, answer) next := by
  cases hvisited with
  | redirected names response next hvalid hlast hnext =>
      cases hresult
      refine ⟨hlast, .ok response, ?_, hnext⟩
      rw [exchanges, List.filterMap_append]
      unfold givenBackTo
      split <;> rfl
  | unasked | invalid | unsent | undiscarded | refused | returned => cases hresult

/-- A loop that ends in its first iteration. -/
theorem confined {ended : Except Error (HttpResponse Payload)}
    (hresult : result = ended.map Sum.inl) (remaining : Nat) :
    Confined history unicode addresses settings (remaining + 1) url ended where
  guarded := by
    have hguarded := hvisited.guarded guarded_nil
    rwa [List.append_nil] at hguarded
  few := by
    rcases hvisited.exchanges_eq with heq | ⟨answer, heq⟩
    · rw [heq]
      exact Nat.zero_le _
    · rw [heq]
      exact Nat.succ_le_succ (Nat.zero_le _)
  starts request hrequest := by
    rcases hvisited.exchanges_eq with heq | ⟨answer, heq⟩
    · rw [heq] at hrequest
      cases hrequest
    · rw [heq] at hrequest
      cases hrequest
      rfl
  chained := by
    rcases hvisited.exchanges_eq with heq | ⟨answer, heq⟩
    · rw [heq]
      exact .nil
    · rw [heq]
      exact .singleton _
  returned response hended := by
    rw [hended] at hresult
    obtain ⟨hsuccess, front, heq⟩ := hvisited.returns hresult
    exact ⟨hsuccess, front, url, heq⟩
  givenBack hdiscards := by
    rw [hvisited.givenBack hdiscards, hresult]
    cases ended <;> rfl
  raised error hended := by
    rw [hended] at hresult
    exact (hvisited.raised hresult).imp_right .inr

/-- A loop that goes on after an iteration. -/
theorem confined_next {next : Text} (hresult : result = .ok (.inr next)) {remaining : Nat}
    {ended : Except Error (HttpResponse Payload)}
    (hrest : Confined rest unicode addresses settings remaining next ended)
    (hremains : remaining ≠ 0) :
    Confined (history ++ rest) unicode addresses settings (remaining + 1) url ended := by
  obtain ⟨-, answer, hexchanges, hnext⟩ := hvisited.redirects hresult
  have hboth : exchanges (history ++ rest) = (url, answer) :: exchanges rest := by
    rw [exchanges, List.filterMap_append, ← exchanges, hexchanges]
    rfl
  exact
    { guarded := hvisited.guarded hrest.guarded
      few := by
        rw [hboth]
        exact Nat.succ_le_succ hrest.few
      starts := fun request hrequest => by
        rw [hboth] at hrequest
        cases hrequest
        rfl
      chained := by
        rw [hboth]
        refine List.isChain_cons.mpr ⟨fun request hrequest => ?_, hrest.chained⟩
        rw [hrest.starts request hrequest]
        exact hnext
      returned := fun response hended => by
        obtain ⟨hsuccess, front, target, heq⟩ := hrest.returned response hended
        exact ⟨hsuccess, history ++ front, target, by rw [heq, List.append_assoc]⟩
      givenBack := fun hdiscards => by
        have hhistory := hvisited.givenBack hdiscards
        rw [hresult] at hhistory
        have hempty : receivedResponses history = discardedResponses history := by
          rw [hhistory]
          exact List.append_nil _
        calc receivedResponses (history ++ rest)
          _ = receivedResponses history ++ receivedResponses rest := List.filterMap_append
          _ = discardedResponses history ++ (discardedResponses rest ++ _) := by
            rw [hempty, hrest.givenBack hdiscards]
          _ = discardedResponses (history ++ rest) ++ _ := by
            rw [← List.append_assoc, discardedResponses, discardedResponses, discardedResponses,
              List.filterMap_append]
      raised := fun error hended => by
        rcases hrest.raised error hended with hfault | ⟨hzero, -⟩ | ⟨op, hop⟩
        · exact .inl hfault
        · exact absurd hzero hremains
        · exact .inr (.inr ⟨op, List.mem_append_right _ hop⟩) }

end Visited

/-- An iteration that returns or raises ends the loop. -/
theorem followFrom_of_ended {remaining : Nat} {url : Text}
    {world reached : RedirectWorld Payload Error} {ended : Except Error (HttpResponse Payload)}
    (hrun : (settings.following environment).visit unicode addresses (remaining == 0) url world =
      (ended.map Sum.inl, reached)) :
    (settings.following environment).followFrom unicode addresses (remaining + 1) url world =
      (ended, reached) := by
  rw [Following.followFrom, Effect.bind_run, hrun]
  cases ended <;> rfl

/-- After an iteration that was redirected the loop goes on. -/
theorem followFrom_of_redirected (remaining : Nat) {url next : Text}
    {world reached : RedirectWorld Payload Error}
    (hrun : (settings.following environment).visit unicode addresses (remaining == 0) url world =
      (.ok (.inr next), reached)) :
    (settings.following environment).followFrom unicode addresses (remaining + 1) url world =
      (settings.following environment).followFrom unicode addresses remaining next reached := by
  rw [Following.followFrom, Effect.bind_run, hrun]

theorem followFrom_run (remaining : Nat) (url : Text) (world : RedirectWorld Payload Error) :
    ∃ history result, Confined history unicode addresses settings (remaining + 1) url result ∧
      (settings.following environment).followFrom unicode addresses (remaining + 1) url world =
        (result, { world with history := world.history ++ history }) := by
  induction remaining generalizing url world with
  | zero =>
      obtain ⟨history, result, hvisited, hrun⟩ := visit_run unicode addresses settings environment
        true url world
      match result, hvisited, hrun with
      | .error error, hvisited, hrun =>
          exact ⟨history, .error error, hvisited.confined rfl 0, followFrom_of_ended hrun⟩
      | .ok (.inl response), hvisited, hrun =>
          exact ⟨history, .ok response, hvisited.confined rfl 0, followFrom_of_ended hrun⟩
      | .ok (.inr next), hvisited, hrun => cases (hvisited.redirects rfl).1
  | succ remaining ih =>
      obtain ⟨history, result, hvisited, hrun⟩ := visit_run unicode addresses settings environment
        false url world
      match result, hvisited, hrun with
      | .error error, hvisited, hrun =>
          exact ⟨history, .error error, hvisited.confined rfl _, followFrom_of_ended hrun⟩
      | .ok (.inl response), hvisited, hrun =>
          exact ⟨history, .ok response, hvisited.confined rfl _, followFrom_of_ended hrun⟩
      | .ok (.inr next), hvisited, hrun =>
          obtain ⟨later, result, hconfined, hlater⟩ := ih next
            { world with history := world.history ++ history }
          refine ⟨history ++ later, result,
            hvisited.confined_next rfl hconfined (Nat.succ_ne_zero _), ?_⟩
          rw [followFrom_of_redirected (remaining + 1) hrun, hlater, List.append_assoc]

/-- Whatever is sent, answered and resolved: `follow_redirects` sends at most eleven requests,
each of them to a target that has just been accepted with what the name service says now, and
each after the first to where the one before it was redirected. It returns a successful response,
and gives back every other one in the order in which they came. What it raises is of the class it
is given, or was raised by a call. -/
theorem redirects_followed_in_bounds (unicode : UnicodeData) (addresses : AddressData)
    (settings : RedirectSettings Error)
    (environment : Environment (RedirectOp.Answer Error : RedirectOp Payload → Type)) (url : Text)
    (world : RedirectWorld Payload Error) :
    ∃ history result, Confined history unicode addresses settings 11 url result ∧
      (settings.following environment).followRedirects unicode addresses url world =
        (result, { world with history := world.history ++ history }) :=
  followFrom_run 10 url world

end Runs

end DataSluice.Io
