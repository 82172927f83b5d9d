/-
# Requests and their redirects

The catalog transports follow redirects themselves: the opener of `urllib` and the client
of `httpx` are told not to. Each hop is a new `RuntimeRequest`, built from the one before it
by `_next_redirect_request`.

What the library answers to a request is not computed here. A run is given by the sequence
of its answers, with any statuses and any locations, and its result is the list of what was
handed to the library, with the way the call ended. The asynchronous transport of `httpx`
runs the same loop.
-/

import Mathlib.Data.List.Infix
import DataSluice.Lib.Url

namespace DataSluice.Runtime.Transport

open DataSluice.Lib.Url

/-! ## Requests -/

inductive RedirectPolicy
  | follow
  | noFollow
  deriving DecidableEq

/-- The content of a part: buffered, or a stream that can be read once. -/
inductive UploadData (Stream : Type)
  | bytes (data : List UInt8)
  | stream (source : Stream)

/-- One part of a multipart form. -/
structure UploadPart (Stream : Type) where
  fieldName : Text
  data : UploadData Stream
  fileName : Option Text
  contentType : Option Text
  fieldName_ne : fieldName ≠ []
  fileName_ne : fileName ≠ some []
  contentType_ne : contentType ≠ some []

/-- A mapping of header names to values, in its order. -/
structure Headers where
  entries : List (Text × Text)
  nodup : (entries.map Prod.fst).Nodup

namespace Headers

/-- The headers whose name meets a condition. -/
def filter (headers : Headers) (keep : Text → Bool) : Headers where
  entries := headers.entries.filter fun entry => keep entry.1
  nodup := headers.nodup.sublist (List.filter_sublist.map Prod.fst)

@[simp]
theorem mem_entries_filter {headers : Headers} {keep : Text → Bool} {entry : Text × Text} :
    entry ∈ (headers.filter keep).entries ↔ entry ∈ headers.entries ∧ keep entry.1 = true :=
  List.mem_filter

end Headers

variable {Stream Monitor : Type}

/-- `RuntimeRequest`, with what its constructor makes sure of. -/
structure RuntimeRequest (Stream Monitor : Type) where
  method : Text
  url : Text
  headers : Headers
  body : Option (List UInt8)
  files : List (UploadPart Stream)
  redirectPolicy : RedirectPolicy
  maxResponseBytes : Option Int
  deadline : Option Monitor
  method_ne : method ≠ []
  url_ne : url ≠ []
  exclusive : body = none ∨ files = []
  buffered : redirectPolicy = .follow → ∀ part ∈ files, ∃ data, part.data = .bytes data
  limit_pos : ∀ limit ∈ maxResponseBytes, 1 ≤ limit
  names_ne : ∀ entry ∈ headers.entries, entry.1 ≠ []

/-- The part is a stream. -/
def UploadPart.isStream (part : UploadPart Stream) : Bool :=
  match part.data with
  | .bytes _ => false
  | .stream _ => true

/-- The constructor of `RuntimeRequest`. -/
def RuntimeRequest.create (method url : Text) (headers : Headers) (body : Option (List UInt8))
    (files : List (UploadPart Stream)) (redirectPolicy : RedirectPolicy)
    (maxResponseBytes : Option Int) (deadline : Option Monitor) :
    Except ValueError (RuntimeRequest Stream Monitor) :=
  if hmethod : method = [] then
    .error ⟨"Runtime request methods must be non-empty strings."⟩
  else if hurl : url = [] then
    .error ⟨"Runtime request URLs must be non-empty strings."⟩
  else if hpayload : body.isSome ∧ files ≠ [] then
    .error ⟨"Runtime requests cannot carry a byte body and multipart parts together."⟩
  else if hstream : redirectPolicy = .follow ∧ files.any UploadPart.isStream then
    .error ⟨"Multipart parts carrying one-shot streams require RedirectPolicy.NO_FOLLOW."⟩
  else if hlimit : maxResponseBytes.any (· < 1) then
    .error ⟨"Runtime request response limits must be positive integers when supplied."⟩
  else if hnames : headers.entries.any fun entry => entry.1.isEmpty then
    .error ⟨"Runtime request headers must contain non-empty string names and string values."⟩
  else .ok
    { method := method
      url := url
      headers := headers
      body := body
      files := files
      redirectPolicy := redirectPolicy
      maxResponseBytes := maxResponseBytes
      deadline := deadline
      method_ne := hmethod
      url_ne := hurl
      exclusive := by
        cases body with
        | none => exact .inl rfl
        | some data => exact .inr (by simpa using hpayload)
      buffered := by
        intro hfollow part hpart
        have hbytes : part.isStream = false := by
          by_contra hcontra
          exact hstream ⟨hfollow, List.any_eq_true.mpr ⟨part, hpart, by simpa using hcontra⟩⟩
        cases hdata : part.data with
        | bytes data => exact ⟨data, rfl⟩
        | stream source => simp [UploadPart.isStream, hdata] at hbytes
      limit_pos := by
        intro limit hmem
        rw [Option.mem_def] at hmem
        subst hmem
        simpa using hlimit
      names_ne := by
        intro entry hentry hempty
        exact hnames (List.any_eq_true.mpr ⟨entry, hentry, by simp [hempty]⟩) }

/-! ## Origins and credentials -/

/-- Where credentials may be sent. -/
structure CredentialScope where
  allowedHosts : List Text
  allowedSchemes : List Text
  sendOnRedirect : Bool

def safeRedirectHeaders : List String :=
  ["accept", "content-type", "user-agent", "range", "if-none-match", "if-modified-since"]

def hopBodylessHeaders : List String := ["content-length", "content-type", "transfer-encoding"]

def postToGetStatuses : List Int := [301, 302]

def allowedRedirectSchemes : List String := ["http", "https"]

def redirectCodes : List Int := [301, 302, 303, 307, 308]

def credentialParts : List String :=
  ["api_key", "apikey", "token", "secret", "password", "passwd", "credential", "authorization",
    "signature"]

section Functions

variable (unicode : UnicodeData)

/-- `_origin`: scheme, host and port, with the port of the scheme where the URL has none.
A URL that cannot be split has no origin, which is one value for all of them. -/
def origin (url : Text) : Text × Text × Option Nat :=
  match urlsplit unicode url with
  | .error _ => ([], [], none)
  | .ok parsed =>
      match parsed.port with
      | .error _ => ([], [], none)
      | .ok port =>
          let default := if parsed.scheme = "https".toList then 443 else 80
          (unicode.lower parsed.scheme, (parsed.hostname unicode).getD [],
            some (if port.getD 0 = 0 then default else port.getD 0))

/-- `_redacted_redirect_url` -/
def redactedRedirectUrl (url : Text) : Text :=
  match urlsplit unicode url with
  | .error _ => "<unparseable-redirect-target>".toList
  | .ok parsed =>
      let kept := (parseQsl parsed.query).filter fun pair =>
        !credentialParts.any fun part => decide (part.toList <:+: unicode.lower pair.1)
      urlunsplit
        { parsed with
          netloc := (rpartition '@' parsed.netloc).2.2
          query := urlencode [] kept
          fragment := [] }

/-- `_retains_credentials` -/
def retainsCredentials (scope : Option CredentialScope) (currentUrl nextUrl : Text) : Bool :=
  match scope with
  | none => origin unicode currentUrl == origin unicode nextUrl
  | some scope =>
      let target := origin unicode nextUrl
      scope.sendOnRedirect && scope.allowedSchemes.contains target.1 &&
        scope.allowedHosts.contains target.2.1

/-- The header is one that any redirect may carry. -/
def isSafe (name : Text) : Bool := isOneOf safeRedirectHeaders (unicode.lower name)

/-- `strip_sensitive_redirect_headers` -/
def stripSensitiveRedirectHeaders (headers : Headers) : Headers :=
  headers.filter (isSafe unicode)

/-- `drop_body_transfer_headers` -/
def dropBodyTransferHeaders (headers : Headers) : Headers :=
  headers.filter fun name => !isOneOf hopBodylessHeaders (unicode.lower name)

/-- `redirect_method_and_body` -/
def redirectMethodAndBody (method : Text) (status : Int) (body : Option (List UInt8))
    (files : List (UploadPart Stream)) :
    Text × Option (List UInt8) × List (UploadPart Stream) :=
  if status = 303 then ("GET".toList, none, [])
  else if status ∈ postToGetStatuses ∧ unicode.upper method = "POST".toList then
    ("GET".toList, none, [])
  else (method, body, files)

/-! ## One hop -/

/-- `TransportError`; a message that ends in a URL has its redacted form beside it. -/
structure TransportError where
  message : String
  url : Option Text := none
  deriving DecidableEq

/-- What `send` raises. -/
inductive SendError
  | transport (error : TransportError)
  | value (error : ValueError)
  | /-- What the library or the deadline raises, and `send` lets through. -/
    other (message : String)
  deriving DecidableEq

/-- A `ValueError` that nothing catches. -/
def uncaught {α : Type} : Except ValueError α → Except SendError α
  | .ok value => .ok value
  | .error error => .error (.value error)

/-- `_next_redirect_request` -/
def nextRedirectRequest (request : RuntimeRequest Stream Monitor) (status : Int) (nextUrl : Text)
    (scope : Option CredentialScope) (label : String) :
    Except SendError (RuntimeRequest Stream Monitor) := do
  let target ← uncaught (urlsplit unicode nextUrl)
  if target.netloc.contains '@' then
    throw (.transport ⟨label ++ " refused a redirect target with embedded credentials.", none⟩)
  let headers :=
    if retainsCredentials unicode scope request.url nextUrl then request.headers
    else stripSensitiveRedirectHeaders unicode request.headers
  let rewritten := redirectMethodAndBody unicode request.method status request.body request.files
  let carries := rewritten.2.1.isSome || !rewritten.2.2.isEmpty
  if carries ∧ origin unicode request.url ≠ origin unicode nextUrl then
    throw (.transport ⟨label ++ " refused to relay a request body to a different redirect origin",
      some (redactedRedirectUrl unicode nextUrl)⟩)
  uncaught (RuntimeRequest.create rewritten.1 nextUrl
    (if carries then headers else dropBodyTransferHeaders unicode headers)
    rewritten.2.1 rewritten.2.2 request.redirectPolicy request.maxResponseBytes request.deadline)

/-- A response of `urllib`: its headers are the pairs of `_header_map`. -/
structure UrllibReply where
  status : Int
  headers : List (Text × Text)
  body : List UInt8

/-- `UrllibCatalogTransport._redirect_request`, and the test of the policy before it. -/
def urllibRedirect (scope : Option CredentialScope) (request : RuntimeRequest Stream Monitor)
    (reply : UrllibReply) : Except SendError (Option (RuntimeRequest Stream Monitor)) :=
  if request.redirectPolicy = .noFollow then .ok none
  else
    match reply.headers.find? fun entry => unicode.lower entry.1 == "location".toList with
    | none => .ok none
    | some (_, location) =>
        if reply.status ∉ redirectCodes then .ok none
        else
          match urljoin unicode request.url location with
          | .error _ =>
              .error (.transport ⟨"urllib received an unusable redirect target",
                some (redactedRedirectUrl unicode location)⟩)
          | .ok nextUrl => do
              let target ← uncaught (urlsplit unicode nextUrl)
              if !isOneOf allowedRedirectSchemes (unicode.lower target.scheme) then
                throw (.transport ⟨"Refusing to follow non-HTTP redirect to",
                  some (redactedRedirectUrl unicode nextUrl)⟩)
              some <$> nextRedirectRequest unicode request reply.status nextUrl scope "urllib"

/-- A response of `httpx`, with the two properties that are read from it. -/
structure HttpxReply where
  status : Int
  headers : List (Text × Text)
  body : List UInt8
  /-- `response.is_redirect` -/
  isRedirect : Bool
  /-- `response.headers.get("location")` -/
  location : Option Text

/-- `_require_plain_http_target` -/
def requirePlainHttpTarget (url : Text) : Except ValueError Unit := do
  let parsed ← urlsplit unicode url
  if !isOneOf allowedRedirectSchemes (unicode.lower parsed.scheme) then
    throw ⟨"non-HTTP redirect target scheme"⟩
  let _ ← parsed.port

/-- `_follow_location` -/
def followLocation (request : RuntimeRequest Stream Monitor) (reply : HttpxReply) : Option Text :=
  if request.redirectPolicy = .noFollow ∨ reply.isRedirect = false then none else reply.location

/-- `_redirect_request` of the `httpx` transports, behind `_follow_location`. -/
def httpxRedirect (scope : Option CredentialScope) (request : RuntimeRequest Stream Monitor)
    (reply : HttpxReply) : Except SendError (Option (RuntimeRequest Stream Monitor)) :=
  match followLocation request reply with
  | none => .ok none
  | some location =>
      match (do
        let nextUrl ← urljoin unicode request.url location
        requirePlainHttpTarget unicode nextUrl
        return nextUrl : Except ValueError Text) with
      | .error _ =>
          .error (.transport ⟨"httpx received an unusable redirect target",
            some (redactedRedirectUrl unicode location)⟩)
      | .ok nextUrl =>
          some <$> nextRedirectRequest unicode request reply.status nextUrl scope "httpx"

/-! ## The loops -/

/-- What is handed to the library for one request. -/
structure Sent (Stream : Type) where
  method : Text
  url : Text
  headers : Headers
  body : Option (List UInt8)
  files : List (UploadPart Stream)

/-- The `Request` that the opener of `urllib` gets. -/
def urllibRequest (request : RuntimeRequest Stream Monitor) : Sent Stream where
  method := request.method
  url := request.url
  headers := request.headers
  body := request.body
  files := []

/-- `_build_request` -/
def buildRequest (request : RuntimeRequest Stream Monitor) : Sent Stream :=
  if request.files ≠ [] then
    { method := request.method
      url := request.url
      headers := dropBodyTransferHeaders unicode request.headers
      body := none
      files := request.files }
  else
    { method := request.method
      url := request.url
      headers := request.headers
      body := request.body
      files := [] }

end Functions

/-- What becomes of one request: the deadline forbids it, the library fails, or there is a
response. -/
inductive Reply (Response : Type)
  | notSent (error : SendError)
  | failed (error : SendError)
  | response (response : Response)

/-- The loop of `send`: the requests that it hands over within the remaining number of
turns, and how it ends. -/
def sendLoop {Response : Type} (handOver : RuntimeRequest Stream Monitor → Sent Stream)
    (redirect : RuntimeRequest Stream Monitor → Response →
      Except SendError (Option (RuntimeRequest Stream Monitor))) :
    Nat → (Nat → Reply Response) → RuntimeRequest Stream Monitor →
      List (Sent Stream) × Except SendError Response
  | 0, _, _ => ([], .error (.transport ⟨"Catalog redirect limit exceeded.", none⟩))
  | turns + 1, replies, current =>
      match replies 0 with
      | .notSent error => ([], .error error)
      | .failed error => ([handOver current], .error error)
      | .response response =>
          match redirect current response with
          | .error error => ([handOver current], .error error)
          | .ok none => ([handOver current], .ok response)
          | .ok (some next) =>
              let rest := sendLoop handOver redirect turns (fun index => replies (index + 1)) next
              (handOver current :: rest.1, rest.2)

/-- The number of turns of `for _ in range(self._max_redirects + 1)`. -/
def turns (maxRedirects : Int) : Nat := (maxRedirects + 1).toNat

variable (unicode : UnicodeData)

/-- `UrllibCatalogTransport.send` -/
def urllibSend (scope : Option CredentialScope) (maxRedirects : Int) (closed : Bool)
    (replies : Nat → Reply UrllibReply) (request : RuntimeRequest Stream Monitor) :
    List (Sent Stream) × Except SendError UrllibReply :=
  if closed then ([], .error (.transport ⟨"The urllib catalog transport is closed.", none⟩))
  else if request.files ≠ [] then
    ([], .error (.transport ⟨"Multipart requests require the httpx transport; install " ++
      "datasluice[http] or inject an httpx transport.", none⟩))
  else sendLoop urllibRequest (urllibRedirect unicode scope) (turns maxRedirects) replies request

/-- `HttpxCatalogTransport.send` -/
def httpxSend (scope : Option CredentialScope) (maxRedirects : Int) (closed : Bool)
    (replies : Nat → Reply HttpxReply) (request : RuntimeRequest Stream Monitor) :
    List (Sent Stream) × Except SendError HttpxReply :=
  if closed then ([], .error (.transport ⟨"The httpx catalog transport is closed.", none⟩))
  else sendLoop (buildRequest unicode) (httpxRedirect unicode scope) (turns maxRedirects) replies
    request

end DataSluice.Runtime.Transport
