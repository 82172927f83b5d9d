/-
# Where redirects take credentials and bodies

One hop drops what it must not carry, and no later hop can bring it back. So what is carried
by the last of some hops was carried by all of them, and each hop between them was one that
may carry it. For headers that means one origin throughout, or targets within the scope; for
bodies it means one origin throughout.
-/

import Mathlib.Data.List.Chain
import DataSluice.Runtime.Transport

namespace DataSluice.Runtime.Transport

open DataSluice.Lib.Url

/-! ## Chains -/

section Chains

variable {α : Type} {R Q : α → α → Prop} {P : α → Prop}

/-- A property that links hand backwards holds at the start of a chain that ends with it,
and each link up to there is one that hands it on. -/
theorem isChain_take_of_backwards (hback : ∀ a b, R a b → P b → P a ∧ Q a b)
    {first : α} {rest : List α} (hchain : (first :: rest).IsChain R) {i : Nat} {last : α}
    (hlast : (first :: rest)[i]? = some last) (hP : P last) :
    P first ∧ ((first :: rest).take (i + 1)).IsChain Q := by
  induction rest generalizing first i with
  | nil =>
      cases i with
      | zero =>
          have heq : first = last := by simpa using hlast
          exact ⟨heq ▸ hP, List.isChain_singleton _⟩
      | succ i => simp at hlast
  | cons second rest ih =>
      have hlinks := List.isChain_cons_cons.mp hchain
      cases i with
      | zero =>
          have heq : first = last := by simpa using hlast
          exact ⟨heq ▸ hP, List.isChain_singleton _⟩
      | succ i =>
          have hsecond := ih hlinks.2 (by simpa using hlast)
          have hfirst := hback first second hlinks.1 hsecond.1
          exact ⟨hfirst.1, List.isChain_cons_cons.mpr ⟨hfirst.2, hsecond.2⟩⟩

/-- What every link gives its target holds behind the start of a chain. -/
theorem forall_mem_of_isChain {first : α} {rest : List α}
    (hchain : (first :: rest).IsChain fun _ target => P target) : ∀ target ∈ rest, P target := by
  induction rest generalizing first with
  | nil => simp
  | cons second rest ih =>
      have hlinks := List.isChain_cons_cons.mp hchain
      intro target htarget
      cases List.mem_cons.mp htarget with
      | inl heq => exact heq ▸ hlinks.1
      | inr hrest => exact ih hlinks.2 target hrest

end Chains

variable {Stream Monitor : Type}

/-! ## One hop -/

/-- The request has a body or parts. -/
def RuntimeRequest.Carries (request : RuntimeRequest Stream Monitor) : Prop :=
  request.body ≠ none ∨ request.files ≠ []

/-- The URL can be split, its scheme is one of the two, and no user information stands in
front of its host. -/
def IsPlain (unicode : UnicodeData) (url : Text) : Prop :=
  ∃ parts, urlsplit unicode url = .ok parts ∧
    isOneOf allowedRedirectSchemes (unicode.lower parts.scheme) = true ∧ '@' ∉ parts.netloc

/-- What one hop does. -/
structure Hop (unicode : UnicodeData) (scope : Option CredentialScope)
    (current next : RuntimeRequest Stream Monitor) : Prop where
  plain : IsPlain unicode next.url
  header : ∀ entry ∈ next.headers.entries, isSafe unicode entry.1 = false →
    entry ∈ current.headers.entries ∧
      retainsCredentials unicode scope current.url next.url = true
  payload : next.Carries →
    current.Carries ∧ origin unicode current.url = origin unicode next.url

section Steps

variable {unicode : UnicodeData} {scope : Option CredentialScope}
  {request next : RuntimeRequest Stream Monitor} {status : Int} {nextUrl : Text} {label : String}

theorem uncaught_eq_ok {α : Type} {result : Except ValueError α} {value : α}
    (h : uncaught result = .ok value) : result = .ok value := by
  cases result with
  | error error => cases h
  | ok found => exact congrArg Except.ok (Except.ok.inj h)

/-- The constructor keeps what it is given. -/
theorem RuntimeRequest.create_eq_ok {method url : Text} {headers : Headers}
    {body : Option (List UInt8)} {files : List (UploadPart Stream)} {policy : RedirectPolicy}
    {limit : Option Int} {deadline : Option Monitor}
    (h : RuntimeRequest.create method url headers body files policy limit deadline = .ok next) :
    next.url = url ∧ next.headers = headers ∧ next.body = body ∧ next.files = files := by
  unfold RuntimeRequest.create at h
  split_ifs at h
  cases h
  exact ⟨rfl, rfl, rfl, rfl⟩

/-- A rewritten request carries its own payload, or none. -/
theorem redirectMethodAndBody_payload (unicode : UnicodeData) (status : Int) (method : Text)
    (body : Option (List UInt8)) (files : List (UploadPart Stream)) :
    (redirectMethodAndBody unicode method status body files).2 = (body, files) ∨
      (redirectMethodAndBody unicode method status body files).2 = (none, []) := by
  unfold redirectMethodAndBody
  split_ifs
  · exact .inr rfl
  · exact .inr rfl
  · exact .inl rfl

/-- The headers of a hop are among those of the request before it, and the sensitive ones
stay only where credentials do. -/
theorem mem_entries_hop {headers : Headers} {retains carries : Bool} {entry : Text × Text}
    (h : entry ∈ (if carries then
          (if retains then headers else stripSensitiveRedirectHeaders unicode headers)
        else dropBodyTransferHeaders unicode
          (if retains then headers else stripSensitiveRedirectHeaders unicode headers)).entries) :
    entry ∈ headers.entries ∧ (retains = true ∨ isSafe unicode entry.1 = true) := by
  have hkept : entry ∈
      (if retains then headers else stripSensitiveRedirectHeaders unicode headers).entries := by
    cases carries with
    | true => exact h
    | false =>
        rw [if_neg Bool.false_ne_true] at h
        exact (Headers.mem_entries_filter.mp h).1
  cases retains with
  | true => exact ⟨hkept, .inl rfl⟩
  | false =>
      have hsafe := Headers.mem_entries_filter.mp hkept
      exact ⟨hsafe.1, .inr hsafe.2⟩

/-- What `_next_redirect_request` builds, given the tests that it has passed by then. -/
theorem nextRedirectRequest_eq_ok
    (h : nextRedirectRequest unicode request status nextUrl scope label = .ok next) :
    (∃ parts, urlsplit unicode nextUrl = .ok parts ∧ '@' ∉ parts.netloc) ∧
      next.url = nextUrl ∧
      (next.body, next.files) =
        (redirectMethodAndBody unicode request.method status request.body request.files).2 ∧
      (next.Carries → origin unicode request.url = origin unicode nextUrl) ∧
      ∀ entry ∈ next.headers.entries, entry ∈ request.headers.entries ∧
        (retainsCredentials unicode scope request.url nextUrl = true ∨
          isSafe unicode entry.1 = true) := by
  unfold nextRedirectRequest at h
  cases hsplit : urlsplit unicode nextUrl with
  | error error => rw [hsplit] at h; cases h
  | ok parts =>
    simp only [hsplit, uncaught, bind, Except.bind] at h
    split at h
    · cases h
    next huserinfo =>
      split at h
      · cases h
      next hpayload =>
        have hcreate := RuntimeRequest.create_eq_ok (uncaught_eq_ok h)
        have hnetloc : '@' ∉ parts.netloc := by simpa using huserinfo
        have hbody := hcreate.2.2.1
        have hfiles := hcreate.2.2.2
        refine ⟨⟨parts, rfl, hnetloc⟩, hcreate.1, ?_, ?_, ?_⟩
        · rw [hbody, hfiles]
        · intro hcarries
          by_contra horigin
          apply hpayload
          constructor
          · cases hcarries with
            | inl hsome => simp [← hbody, Option.isSome_iff_ne_none.mpr hsome]
            | inr hne => simp [← hfiles, hne]
          · exact horigin
        · intro entry hentry
          rw [hcreate.2.1] at hentry
          exact mem_entries_hop hentry

/-- A request that `_next_redirect_request` builds for a target with an allowed scheme is one
hop behind the last. -/
theorem hop_of_nextRedirectRequest
    (h : nextRedirectRequest unicode request status nextUrl scope label = .ok next)
    (hscheme : ∀ parts, urlsplit unicode nextUrl = .ok parts →
      isOneOf allowedRedirectSchemes (unicode.lower parts.scheme) = true) :
    Hop unicode scope request next := by
  have hnext := nextRedirectRequest_eq_ok h
  obtain ⟨⟨parts, hparts, hnetloc⟩, hurl, hpayload, horigin, hheaders⟩ := hnext
  constructor
  case plain =>
    rw [hurl]
    exact ⟨parts, hparts, hscheme parts hparts, hnetloc⟩
  case header =>
    intro entry hentry hsensitive
    have hkept := hheaders entry hentry
    rw [hurl]
    apply And.intro hkept.1
    apply hkept.2.resolve_right
    simp [hsensitive]
  case payload =>
    intro hcarries
    rw [hurl]
    apply And.intro _ (horigin hcarries)
    have hrewritten := redirectMethodAndBody_payload unicode status
      request.method request.body request.files
    rw [← hpayload] at hrewritten
    cases hrewritten with
    | inl hsame =>
        have hsame := Prod.mk.inj hsame
        unfold RuntimeRequest.Carries at hcarries ⊢
        rwa [hsame.1, hsame.2] at hcarries
    | inr hnone =>
        have hnone := Prod.mk.inj hnone
        unfold RuntimeRequest.Carries at hcarries
        simp [hnone.1, hnone.2] at hcarries

end Steps

/-- The next request, when there is one, is one hop behind. -/
theorem hop_of_urllibRedirect {unicode : UnicodeData} {scope : Option CredentialScope}
    {request next : RuntimeRequest Stream Monitor} {reply : UrllibReply}
    (h : urllibRedirect unicode scope request reply = .ok (some next)) :
    Hop unicode scope request next := by
  unfold urllibRedirect at h
  split at h
  · cases h
  split at h
  · cases h
  split at h
  · cases h
  split at h
  · cases h
  next nextUrl hjoin =>
    cases hsplit : urlsplit unicode nextUrl with
    | error error => rw [hsplit] at h; cases h
    | ok parts =>
      simp only [hsplit, uncaught, bind, Except.bind] at h
      split at h
      · cases h
      next hscheme =>
        cases hnext : nextRedirectRequest unicode request reply.status nextUrl scope "urllib" with
        | error error => rw [hnext] at h; cases h
        | ok found =>
          rw [hnext] at h
          cases h
          apply hop_of_nextRedirectRequest hnext
          intro other hother
          cases hsplit.symm.trans hother
          simpa using hscheme

/-- A target that `_require_plain_http_target` lets through has an allowed scheme. -/
theorem scheme_of_requirePlainHttpTarget {unicode : UnicodeData} {url : Text}
    (h : requirePlainHttpTarget unicode url = .ok ()) (parts : SplitResult)
    (hparts : urlsplit unicode url = .ok parts) :
    isOneOf allowedRedirectSchemes (unicode.lower parts.scheme) = true := by
  by_contra hscheme
  rw [Bool.not_eq_true] at hscheme
  simp [requirePlainHttpTarget, hparts, hscheme, bind, Except.bind, throw, throwThe,
    MonadExceptOf.throw] at h

theorem hop_of_httpxRedirect {unicode : UnicodeData} {scope : Option CredentialScope}
    {request next : RuntimeRequest Stream Monitor} {reply : HttpxReply}
    (h : httpxRedirect unicode scope request reply = .ok (some next)) :
    Hop unicode scope request next := by
  unfold httpxRedirect at h
  split at h
  · cases h
  next location hlocation =>
    cases hjoin : urljoin unicode request.url location with
    | error error => simp [hjoin, bind, Except.bind] at h
    | ok nextUrl =>
      cases hplain : requirePlainHttpTarget unicode nextUrl with
      | error error => simp [hjoin, hplain, bind, Except.bind] at h
      | ok _ =>
        simp only [hjoin, hplain, bind, Except.bind, pure, Except.pure] at h
        cases hnext : nextRedirectRequest unicode request reply.status nextUrl scope "httpx" with
        | error error => rw [hnext] at h; cases h
        | ok found =>
          rw [hnext] at h
          cases h
          exact hop_of_nextRedirectRequest hnext (scheme_of_requirePlainHttpTarget hplain)

/-! ## Whole runs -/

/-- The requests that a run hands over are a chain of hops from the first, within the number
of turns. -/
theorem sendLoop_isChain {Response : Type}
    (handOver : RuntimeRequest Stream Monitor → Sent Stream)
    {redirect : RuntimeRequest Stream Monitor → Response →
      Except SendError (Option (RuntimeRequest Stream Monitor))}
    {R : RuntimeRequest Stream Monitor → RuntimeRequest Stream Monitor → Prop}
    (hredirect : ∀ current response next,
      redirect current response = .ok (some next) → R current next)
    (turns : Nat) (replies : Nat → Reply Response) (request : RuntimeRequest Stream Monitor) :
    (sendLoop handOver redirect turns replies request).1 = [] ∨
      ∃ later, (sendLoop handOver redirect turns replies request).1 =
          (request :: later).map handOver ∧
        (request :: later).IsChain R ∧ later.length < turns := by
  induction turns generalizing replies request with
  | zero => exact .inl rfl
  | succ turns ih =>
      have halone : [handOver request] = [request].map handOver ∧ [request].IsChain R ∧
          ([] : List (RuntimeRequest Stream Monitor)).length < turns + 1 :=
        ⟨rfl, List.isChain_singleton request, Nat.succ_pos turns⟩
      rw [sendLoop]
      split
      · exact .inl rfl
      · exact .inr ⟨[], halone⟩
      next response hresponse =>
        split
        · exact .inr ⟨[], halone⟩
        · exact .inr ⟨[], halone⟩
        next target htarget =>
          apply Or.inr
          have hhop := hredirect request response target htarget
          cases ih (fun index => replies (index + 1)) target with
          | inl hnone => exact ⟨[], by simp [hnone], halone.2⟩
          | inr hlater =>
              obtain ⟨later, hsent, hchain, hlength⟩ := hlater
              apply Exists.intro (target :: later)
              apply And.intro
              · simp [hsent]
              · exact ⟨List.isChain_cons_cons.mpr ⟨hhop, hchain⟩, Nat.succ_lt_succ hlength⟩

/-- What is handed over for a request has its URL, and none but its headers and payload. -/
structure Faithful (handOver : RuntimeRequest Stream Monitor → Sent Stream) : Prop where
  url : ∀ request, (handOver request).url = request.url
  header : ∀ request, ∀ entry ∈ (handOver request).headers.entries,
    entry ∈ request.headers.entries
  payload : ∀ request, (handOver request).body ≠ none ∨ (handOver request).files ≠ [] →
    request.Carries

theorem faithful_urllibRequest :
    Faithful (urllibRequest : RuntimeRequest Stream Monitor → Sent Stream) where
  url _ := rfl
  header _ _ hentry := hentry
  payload _ hcarries := .inl (hcarries.resolve_right fun hfiles => hfiles rfl)

theorem faithful_buildRequest (unicode : UnicodeData) :
    Faithful (buildRequest unicode : RuntimeRequest Stream Monitor → Sent Stream) := by
  constructor
  case url =>
    intro request
    unfold buildRequest
    split <;> rfl
  case header =>
    intro request entry hentry
    unfold buildRequest at hentry
    split at hentry
    · exact (Headers.mem_entries_filter.mp hentry).1
    · exact hentry
  case payload =>
    intro request hcarries
    unfold buildRequest at hcarries
    split at hcarries
    next hfiles => exact .inr hfiles
    next => exact .inl (hcarries.resolve_right fun hfiles => hfiles rfl)

/-- The target is one that the scope lets credentials follow to. -/
def Permits (unicode : UnicodeData) (scope : CredentialScope) (url : Text) : Prop :=
  scope.sendOnRedirect = true ∧ (origin unicode url).1 ∈ scope.allowedSchemes ∧
    (origin unicode url).2.1 ∈ scope.allowedHosts

/-- The requests that one call hands over keep credentials and bodies where they belong. -/
structure Confined (unicode : UnicodeData) (scope : Option CredentialScope) (maxRedirects : Int)
    (request : RuntimeRequest Stream Monitor) (sent : List (Sent Stream)) : Prop where
  /-- The first of them is for the URL of the call. -/
  starts : ∀ hop ∈ sent.head?, hop.url = request.url
  /-- Without a scope, a sensitive header on a hop means one origin up to that hop. -/
  same_origin : scope = none → ∀ i hop, sent[i]? = some hop →
    ∀ entry ∈ hop.headers.entries, isSafe unicode entry.1 = false →
      ∀ earlier ∈ sent.take (i + 1), origin unicode earlier.url = origin unicode request.url
  /-- With a scope, it means that the scope permits each target up to that hop. -/
  in_scope : ∀ policy, scope = some policy → ∀ i hop, sent[i]? = some hop →
    ∀ entry ∈ hop.headers.entries, isSafe unicode entry.1 = false →
      ∀ target ∈ (sent.take (i + 1)).tail, Permits unicode policy target.url
  /-- A body or a part goes to the origin of the call only. -/
  payload_same_origin : ∀ hop ∈ sent, hop.body ≠ none ∨ hop.files ≠ [] →
    origin unicode hop.url = origin unicode request.url
  targets_plain : ∀ target ∈ sent.tail, IsPlain unicode target.url
  bounded : sent.length ≤ turns maxRedirects

theorem confined_nil (unicode : UnicodeData) (scope : Option CredentialScope)
    (maxRedirects : Int) (request : RuntimeRequest Stream Monitor) :
    Confined unicode scope maxRedirects request [] := by
  constructor <;> simp

section Chain

variable {unicode : UnicodeData} {scope : Option CredentialScope}
  {request last : RuntimeRequest Stream Monitor} {later : List (RuntimeRequest Stream Monitor)}

/-- Credentials were retained on every hop up to one that has a sensitive header. -/
theorem isChain_retains (hchain : (request :: later).IsChain (Hop unicode scope)) {i : Nat}
    (hlast : (request :: later)[i]? = some last) {entry : Text × Text}
    (hentry : entry ∈ last.headers.entries) (hsensitive : isSafe unicode entry.1 = false) :
    (request :: later.take i).IsChain fun current next =>
      retainsCredentials unicode scope current.url next.url = true :=
  (isChain_take_of_backwards (P := fun hop => entry ∈ hop.headers.entries)
    (fun _ _ hhop hnext => hhop.header entry hnext hsensitive) hchain hlast hentry).2

/-- The origin stays the same along hops that all keep it. -/
theorem origin_eq_of_isChain (hops : List (RuntimeRequest Stream Monitor))
    (hchain : (request :: hops).IsChain fun current next =>
      origin unicode current.url = origin unicode next.url) :
    ∀ hop ∈ request :: hops, origin unicode hop.url = origin unicode request.url := by
  intro hop hmem
  cases List.mem_cons.mp hmem with
  | inl heq => rw [heq]
  | inr hhops =>
      apply hchain.cons_induction (fun hop => origin unicode hop.url = origin unicode request.url)
        hops
      · intro current next hlink hcurrent
        rw [← hlink, hcurrent]
      · rfl
      · exact hhops

/-- What is handed over along a chain of hops is confined. -/
theorem confined_of_isChain {handOver : RuntimeRequest Stream Monitor → Sent Stream}
    (hfaithful : Faithful handOver) {maxRedirects : Int}
    (hchain : (request :: later).IsChain (Hop unicode scope))
    (hlength : later.length < turns maxRedirects) :
    Confined unicode scope maxRedirects request ((request :: later).map handOver) := by
  constructor
  case starts =>
    intro hop hhop
    cases hhop
    exact hfaithful.url request
  case same_origin =>
    intro hscope i hop hi entry hentry hsensitive earlier hearlier
    rw [List.getElem?_map, Option.map_eq_some_iff] at hi
    obtain ⟨last, hlast, rfl⟩ := hi
    have hretains := isChain_retains hchain hlast (hfaithful.header last entry hentry) hsensitive
    rw [← List.map_take, List.mem_map] at hearlier
    obtain ⟨source, hsource, rfl⟩ := hearlier
    rw [hfaithful.url]
    apply origin_eq_of_isChain (later.take i) _ source hsource
    apply hretains.imp
    intro current next hkept
    rw [hscope] at hkept
    exact beq_iff_eq.mp hkept
  case in_scope =>
    intro policy hscope i hop hi entry hentry hsensitive target htarget
    rw [List.getElem?_map, Option.map_eq_some_iff] at hi
    obtain ⟨last, hlast, rfl⟩ := hi
    have hretains := isChain_retains hchain hlast (hfaithful.header last entry hentry) hsensitive
    rw [← List.map_take, List.take_succ_cons, List.map_cons, List.tail_cons, List.mem_map]
      at htarget
    obtain ⟨source, hsource, rfl⟩ := htarget
    rw [hfaithful.url]
    have hpermits : (request :: later.take i).IsChain fun _ next =>
        Permits unicode policy next.url := by
      apply hretains.imp
      intro current next hkept
      rw [hscope] at hkept
      simpa [retainsCredentials, Permits, and_assoc] using hkept
    exact forall_mem_of_isChain hpermits source hsource
  case payload_same_origin =>
    intro hop hhop hcarries
    obtain ⟨last, hlast, rfl⟩ := List.mem_map.mp hhop
    obtain ⟨i, hi⟩ := List.mem_iff_getElem?.mp hlast
    have hcarried := isChain_take_of_backwards (P := RuntimeRequest.Carries)
      (Q := fun current next => origin unicode current.url = origin unicode next.url)
      (fun _ _ hhop hnext => hhop.payload hnext) hchain hi (hfaithful.payload last hcarries)
    rw [hfaithful.url]
    apply origin_eq_of_isChain (later.take i) hcarried.2 last
    apply List.mem_iff_getElem?.mpr
    exact ⟨i, by rw [← List.take_succ_cons, List.getElem?_take_of_lt (Nat.lt_succ_self i), hi]⟩
  case targets_plain =>
    intro target htarget
    rw [List.map_cons, List.tail_cons, List.mem_map] at htarget
    obtain ⟨source, hsource, rfl⟩ := htarget
    rw [hfaithful.url]
    have hplain : (request :: later).IsChain fun _ next => IsPlain unicode next.url := by
      apply hchain.imp
      intro current next hhop
      exact hhop.plain
    exact forall_mem_of_isChain hplain source hsource
  case bounded =>
    rw [List.length_map, List.length_cons]
    exact hlength

end Chain

/-- A loop over hops hands over confined requests. -/
theorem confined_sendLoop {Response : Type} {unicode : UnicodeData}
    {scope : Option CredentialScope} {handOver : RuntimeRequest Stream Monitor → Sent Stream}
    {redirect : RuntimeRequest Stream Monitor → Response →
      Except SendError (Option (RuntimeRequest Stream Monitor))}
    (hfaithful : Faithful handOver)
    (hredirect : ∀ current response next,
      redirect current response = .ok (some next) → Hop unicode scope current next)
    (maxRedirects : Int) (replies : Nat → Reply Response)
    (request : RuntimeRequest Stream Monitor) :
    Confined unicode scope maxRedirects request
      (sendLoop handOver redirect (turns maxRedirects) replies request).1 := by
  cases sendLoop_isChain handOver hredirect (turns maxRedirects) replies request with
  | inl hnone =>
      rw [hnone]
      exact confined_nil unicode scope maxRedirects request
  | inr hsome =>
      obtain ⟨later, hsent, hchain, hlength⟩ := hsome
      rw [hsent]
      exact confined_of_isChain hfaithful hchain hlength

/-- Both transports keep credentials and bodies where they belong, whatever the servers along
the way answer. -/
theorem redirects_confined (unicode : UnicodeData) (scope : Option CredentialScope)
    (maxRedirects : Int) (closed : Bool) (request : RuntimeRequest Stream Monitor)
    (urllibReplies : Nat → Reply UrllibReply) (httpxReplies : Nat → Reply HttpxReply) :
    Confined unicode scope maxRedirects request
        (urllibSend unicode scope maxRedirects closed urllibReplies request).1 ∧
      Confined unicode scope maxRedirects request
        (httpxSend unicode scope maxRedirects closed httpxReplies request).1 := by
  constructor
  · unfold urllibSend
    split_ifs
    · exact confined_nil unicode scope maxRedirects request
    · exact confined_nil unicode scope maxRedirects request
    · exact confined_sendLoop faithful_urllibRequest (fun _ _ _ => hop_of_urllibRedirect)
        maxRedirects urllibReplies request
  · unfold httpxSend
    split_ifs
    · exact confined_nil unicode scope maxRedirects request
    · exact confined_sendLoop (faithful_buildRequest unicode)
        (fun _ _ _ => hop_of_httpxRedirect) maxRedirects httpxReplies request

end DataSluice.Runtime.Transport
