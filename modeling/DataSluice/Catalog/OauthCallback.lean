/-
# The OAuth callback

`begin_authorization_code` binds one browser round trip: it checks the endpoints and the redirect
URI of a flow and fixes the state. `validate_callback_redirect` accepts a location that goes to
the registered endpoint with that state, and whose other parameters are those of the redirect URI.

The registration reads the query of the redirect URI without its blank values, and the callback
reads it with them. So a redirect URI with a blank response parameter is registered, and no
callback to it is ever accepted.
-/

import DataSluice.Domain.HttpTarget
import DataSluice.Domain.UriFixpoint
import DataSluice.Lib.UrlQueries

namespace DataSluice.Catalog.Oauth

open DataSluice.Lib.Url DataSluice.Domain

/-! ## The flow -/

/-- What these functions raise. -/
inductive Refusal
  | valueError (message : String)
  | /-- `CatalogValidationError` -/
    validation (message : String)
  deriving DecidableEq

/-- `OAuthFlow` -/
structure OAuthFlow where
  authorizationUrl : Text
  tokenUrl : Text
  clientId : Text
  scopes : List Text
  supportsRefresh : Bool
  redirectUri : Option Text
  deriving DecidableEq

/-- Text of `secrets.token_urlsafe`. -/
structure Token where
  text : Text
  text_ne : text ≠ []

/-- `AuthorizationCodeFlow`, without its transport. -/
structure AuthorizationCodeFlow where
  flow : OAuthFlow
  verifier : Text
  state : Text
  deriving DecidableEq

/-- `OAuthAuthorizationBinding` -/
structure OAuthAuthorizationBinding where
  descriptor : OAuthFlow
  flow : AuthorizationCodeFlow
  deriving DecidableEq

/-- `if value` -/
def isTruthy (value : Option Text) : Bool := value.any (· ≠ [])

section Checks

variable (unicode : UnicodeData)

/-- The check of one URL in `OAuthFlow.__post_init__`. -/
def checkSanitized (url : Text) (message : String) : Except Refusal Unit :=
  match urlsplit unicode url with
  | .error error => .error (.valueError error.message)
  | .ok parts =>
      if parts.scheme ≠ "https".toList ∨ parts.netloc = [] ∨ isTruthy parts.username ∨
          isTruthy parts.password then .error (.valueError message)
      else .ok ()

/-- `OAuthFlow(…)` -/
def OAuthFlow.new (authorizationUrl tokenUrl clientId : Text) (scopes : List Text)
    (supportsRefresh : Bool) (redirectUri : Option Text) : Except Refusal OAuthFlow := do
  checkSanitized unicode authorizationUrl "OAuth authorization URL must be a sanitized HTTPS URI."
  checkSanitized unicode tokenUrl "OAuth token URL must be a sanitized HTTPS URI."
  match redirectUri with
  | none => pure ()
  | some url => checkSanitized unicode url "OAuth redirect URI must be a sanitized HTTPS URI."
  if clientId = [] then .error (.valueError "OAuth client IDs must be non-empty strings.")
  else if scopes.any (· = []) then
    .error (.valueError "OAuth scopes must be immutable non-empty strings.")
  else .ok ⟨authorizationUrl, tokenUrl, clientId, scopes, supportsRefresh, redirectUri⟩

/-- `_validate_url` -/
def validateUrl (value : Text) (name : String) : Except Refusal Unit :=
  let invalid := Refusal.valueError s!"uData OAuth {name} must be a valid absolute URI."
  if value = [] then .error (.valueError s!"uData OAuth {name} must be a non-empty string.")
  else
    match urlsplit unicode value with
    | .error _ => .error invalid
    | .ok parts =>
        match parts.port with
        | .error _ => .error invalid
        | .ok _ =>
            if parts.scheme ≠ "https".toList ∨ (parts.hostname unicode).getD [] = [] ∨
                parts.username ≠ none ∨ parts.password ≠ none ∨ '#' ∈ value ∨ '\\' ∈ value ∨
                value.any isRefusedChar then
              .error (.valueError
                s!"uData OAuth {name} must be an absolute HTTPS URI without credentials or a fragment.")
            else .ok ()

/-- The keys of an OAuth response. -/
def responseKeys : List String := ["state", "code", "error", "error_description"]

/-- `parse_qsl` that leaves out what has no value. -/
def parseQslNonblank (query : Text) : List (Text × Text) :=
  (((split '&' query).filter (· ≠ [])).map (partition '=')).filterMap fun parts =>
    if parts.2.2 = [] then none else some (unquotePlus parts.1, unquotePlus parts.2.2)

/-- The check of one endpoint in `begin_authorization_code`. -/
def validateEndpoint (url : Text) (name : String) : Except Refusal Unit := do
  validateUrl unicode url name
  match urlsplit unicode url with
  | .error error => .error (.valueError error.message)
  | .ok parts =>
      if parts.query = [] then .ok ()
      else .error (.valueError "uData OAuth endpoint URLs cannot contain a query.")

/-- The check of the redirect URI in `begin_authorization_code`. -/
def validateRedirectUri (url : Text) : Except Refusal Unit := do
  validateUrl unicode url "redirect_uri"
  match urlsplit unicode url with
  | .error error => .error (.valueError error.message)
  | .ok parts =>
      if (parseQslNonblank parts.query).any fun pair => isOneOf responseKeys pair.1 then
        .error (.valueError "The uData redirect URI cannot contain OAuth response parameters.")
      else .ok ()

/-- `AuthorizationCodeFlow(…)`, with the two tokens that are generated. -/
def AuthorizationCodeFlow.new (flow : OAuthFlow) (state : Option Text) (verifier generated : Token) :
    Except Refusal AuthorizationCodeFlow :=
  match state with
  | some [] =>
      .error (.valueError "OAuth authorization state must be a non-empty string.")
  | some (first :: rest) => .ok ⟨flow, verifier.text, first :: rest⟩
  | none => .ok ⟨flow, verifier.text, generated.text⟩

/-- `begin_authorization_code` -/
def beginAuthorizationCode (descriptor : OAuthFlow) (state : Option Text)
    (verifier generated : Token) : Except Refusal OAuthAuthorizationBinding := do
  validateEndpoint unicode descriptor.authorizationUrl "authorization_url"
  validateEndpoint unicode descriptor.tokenUrl "token_url"
  match descriptor.redirectUri with
  | none => .error (.valueError "uData authorization requires an explicit redirect URI.")
  | some redirectUri => do
      validateRedirectUri unicode redirectUri
      let flow ← AuthorizationCodeFlow.new descriptor state verifier generated
      return ⟨descriptor, flow⟩

end Checks

/-! ## The callback -/

namespace OAuthAuthorizationBinding

variable (unicode : UnicodeData) (binding : OAuthAuthorizationBinding)

/-- `validate_state` -/
def validateCallbackState (observed : Text) : Except Refusal Unit :=
  if observed = [] then
    .error (.validation "The OAuth authorization response did not carry a usable state value.")
  else if observed ≠ binding.flow.state then
    .error (.validation
      "The OAuth authorization response state does not match the bound authorization state.")
  else .ok ()

/-- The parameters of a response that are not its own. -/
def retained (parameters : List (Text × Text)) : List (Text × Text) :=
  parameters.filter fun pair => !isOneOf responseKeys pair.1

/-- The values of the parameter `state`. -/
def states (parameters : List (Text × Text)) : List Text :=
  (parameters.filter fun pair => pair.1 = "state".toList).map Prod.snd

/-- The endpoint and the parameters of `validate_callback_redirect`. -/
def checkCallback (observed expected : SplitResult) : Except Refusal Unit :=
  if (observed.scheme, observed.netloc, observed.path) ≠
      (expected.scheme, expected.netloc, expected.path) then
    .error (.valueError "The uData callback redirect must match its authorization binding.")
  else
    match states (parseQsl observed.query) with
    | [state] => do
        binding.validateCallbackState state
        if retained (parseQsl observed.query) ≠ parseQsl expected.query then
          .error (.valueError
            "The uData callback redirect query must match its authorization binding.")
        else .ok ()
    | _ => .error (.valueError "The uData callback redirect must contain exactly one state.")

/-- `validate_callback_redirect` -/
def validateCallbackRedirect (location : Text) : Except Refusal Unit := do
  validateUrl unicode location "callback redirect"
  match urlsplit unicode (binding.descriptor.redirectUri.getD []) with
  | .error error => .error (.valueError error.message)
  | .ok expected =>
      match urlsplit unicode location with
      | .error error => .error (.valueError error.message)
      | .ok observed => binding.checkCallback observed expected

end OAuthAuthorizationBinding

/-! ## What is checked -/

section Endpoints

variable {unicode : UnicodeData}

/-- A URL that `_validate_url` accepts, with its parts. -/
structure IsEndpoint (unicode : UnicodeData) (value : Text) (parts : SplitResult) : Prop where
  split : urlsplit unicode value = .ok parts
  port : ∃ port, parts.port = .ok port
  scheme : parts.scheme = "https".toList
  hostname : (parts.hostname unicode).getD [] ≠ []
  plain : parts.username = none ∧ parts.password = none
  whole : '#' ∉ value ∧ '\\' ∉ value
  clean : ∀ character ∈ value, isRefusedChar character = false

/-- `_validate_url` accepts the absolute `https` URLs with a host and without credentials, a
fragment or a character that is refused, and no others. -/
theorem validateUrl_eq_ok_iff {value : Text} {name : String} :
    validateUrl unicode value name = .ok () ↔ ∃ parts, IsEndpoint unicode value parts := by
  unfold validateUrl
  constructor
  · intro h
    simp only at h
    split_ifs at h
    split at h
    · cases h
    · next parts hparts =>
        split at h
        · cases h
        · next port hport =>
            split_ifs at h with hbad
            simp only [not_or, Bool.not_eq_true, List.any_eq_false, ne_eq, not_not] at hbad
            obtain ⟨hscheme, hhost, huser, hpassword, hhash, hslash, hclean⟩ := hbad
            exact ⟨parts, hparts, ⟨port, hport⟩, hscheme, hhost, ⟨huser, hpassword⟩,
              ⟨hhash, hslash⟩, hclean⟩
  · rintro ⟨parts, hparts, ⟨port, hport⟩, hscheme, hhost, hplain, hwhole, hclean⟩
    have hne : value ≠ [] := by
      rintro rfl
      rw [← (rawParts_of_urlsplit unicode hparts).1] at hscheme
      exact absurd hscheme (by decide)
    have hgood : ¬ (parts.scheme ≠ "https".toList ∨ (parts.hostname unicode).getD [] = [] ∨
        parts.username ≠ none ∨ parts.password ≠ none ∨ '#' ∈ value ∨ '\\' ∈ value ∨
        value.any isRefusedChar) := by
      simp only [not_or, Bool.not_eq_true, List.any_eq_false, ne_eq, not_not]
      exact ⟨hscheme, hhost, hplain.1, hplain.2, hwhole.1, hwhole.2, hclean⟩
    simp only [if_neg hne, hparts, hport, if_neg hgood]

/-- An endpoint names an authority. -/
theorem IsEndpoint.netloc_ne {value : Text} {parts : SplitResult}
    (hendpoint : IsEndpoint unicode value parts) : parts.netloc ≠ [] := by
  intro hnetloc
  refine hendpoint.hostname ?_
  rw [SplitResult.hostname, SplitResult.hostInfo, hnetloc]
  rfl

theorem lt_of_isRefusedChar {character : Char} (hkept : isRefusedChar character = false) :
    32 < character.val := by
  rw [isRefusedChar, Bool.or_eq_false_iff, Bool.or_eq_false_iff] at hkept
  obtain ⟨⟨hblank, hcontrol⟩, -⟩ := hkept
  have hle : 32 ≤ character.val := UInt32.not_lt.mp (decide_eq_false_iff_not.mp hcontrol)
  rcases UInt32.lt_or_eq_of_le hle with hlt | heq
  · exact hlt
  · rw [isBlank, ← heq] at hblank
    exact absurd hblank (by decide)

/-- Text that may stand in a query. -/
def IsQueryText (text : Text) : Prop :=
  ∀ character ∈ text, isRefusedChar character = false ∧ character ≠ '#' ∧ character ≠ '\\'

/-- Adding a query to a URL adds one of the two separators and the query, and no other character.
-/
theorem mem_appendQuery {url added : Text} {character : Char}
    (hmem : character ∈ appendQuery url added) :
    character ∈ url ∨ character = '?' ∨ character = '&' ∨ character ∈ added := by
  rw [appendQuery] at hmem
  split_ifs at hmem
  · rw [List.mem_append, List.mem_cons] at hmem
    exact hmem.imp_right fun h => h.imp_right .inr
  · rw [List.mem_append] at hmem
    exact hmem.imp_right fun h => .inr (.inr h)
  · rw [List.mem_append, List.mem_cons] at hmem
    exact hmem.imp_right .inr

/-- Parameters that are appended to the query of an endpoint make an endpoint again. -/
theorem IsEndpoint.appendQuery {value added : Text} {parts : SplitResult}
    (hendpoint : IsEndpoint unicode value parts) (hadded : IsQueryText added) :
    IsEndpoint unicode (appendQuery value added)
      { parts with query := joinQuery parts.query added } := by
  have hraw := rawParts_of_urlsplit unicode hendpoint.split
  have hkept : ∀ character ∈ value ++ added, isRefusedChar character = false := by
    intro character hmem
    rcases List.mem_append.mp hmem with hmem | hmem
    · exact hendpoint.clean character hmem
    · exact (hadded character hmem).1
  have hhash : '#' ∉ value ++ added := by
    intro hmem
    rcases List.mem_append.mp hmem with hmem | hmem
    · exact hendpoint.whole.1 hmem
    · exact (hadded _ hmem).2.1 rfl
  have hscheme : (rawParts value).scheme ≠ [] := by
    rw [hraw.1, hendpoint.scheme]
    decide
  have hnetloc : (rawParts value).netloc ≠ [] := by
    rw [hraw.1]
    exact hendpoint.netloc_ne
  have hparts := rawParts_appendQuery (fun character hmem =>
    lt_of_isRefusedChar (hkept character hmem)) hhash hscheme hnetloc
  rw [hraw.1] at hparts
  constructor
  case split =>
    rw [urlsplit_eq, hparts, hraw.2]
    rfl
  case port => exact hendpoint.port
  case scheme => exact hendpoint.scheme
  case hostname => exact hendpoint.hostname
  case plain => exact hendpoint.plain
  case whole =>
    constructor <;> intro hmem <;> rcases mem_appendQuery hmem with hmem | hmem | hmem | hmem
    · exact hendpoint.whole.1 hmem
    · exact absurd hmem (by decide)
    · exact absurd hmem (by decide)
    · exact (hadded _ hmem).2.1 rfl
    · exact hendpoint.whole.2 hmem
    · exact absurd hmem (by decide)
    · exact absurd hmem (by decide)
    · exact (hadded _ hmem).2.2 rfl
  case clean =>
    intro character hmem
    rcases mem_appendQuery hmem with hmem | rfl | rfl | hmem
    · exact hendpoint.clean character hmem
    · decide
    · decide
    · exact (hadded character hmem).1

end Endpoints

/-! ## What is registered -/

/-- What is known of a registration. -/
structure Registered (unicode : UnicodeData) (descriptor : OAuthFlow)
    (binding : OAuthAuthorizationBinding) (redirectUri : Text) (expected : SplitResult) : Prop where
  descriptor_eq : binding.descriptor = descriptor
  redirectUri_eq : descriptor.redirectUri = some redirectUri
  endpoint : IsEndpoint unicode redirectUri expected
  state_ne : binding.flow.state ≠ []

/-- A redirect URI that is registered was accepted by `_validate_url` first. -/
theorem endpoint_of_validateRedirectUri {unicode : UnicodeData} {url : Text} {done : Unit}
    (h : validateRedirectUri unicode url = .ok done) :
    ∃ parts, IsEndpoint unicode url parts := by
  unfold validateRedirectUri at h
  simp only [bind, Except.bind] at h
  split at h
  · cases h
  · next hvalid => exact validateUrl_eq_ok_iff.mp hvalid

/-- A flow has a state that is not empty: an empty one is refused, and a generated token never is.
-/
theorem state_ne_of_new {flow : OAuthFlow} {state : Option Text} {verifier generated : Token}
    {made : AuthorizationCodeFlow}
    (h : AuthorizationCodeFlow.new flow state verifier generated = .ok made) : made.state ≠ [] := by
  unfold AuthorizationCodeFlow.new at h
  split at h
  · cases h
  · cases h
    exact List.cons_ne_nil _ _
  · cases h
    exact generated.text_ne

/-- Whatever `begin_authorization_code` accepts has a redirect URI, whose parts the callback is
compared with. -/
theorem registered_of_begin {unicode : UnicodeData} {descriptor : OAuthFlow} {state : Option Text}
    {verifier generated : Token} {binding : OAuthAuthorizationBinding}
    (h : beginAuthorizationCode unicode descriptor state verifier generated = .ok binding) :
    ∃ redirectUri expected, Registered unicode descriptor binding redirectUri expected := by
  unfold beginAuthorizationCode at h
  simp only [bind, Except.bind] at h
  split at h
  · cases h
  · split at h
    · cases h
    · split at h
      · cases h
      · next redirectUri hredirect =>
          split at h
          · cases h
          · next hvalid =>
              split at h
              · cases h
              · next flow hflow =>
                  cases h
                  obtain ⟨expected, hendpoint⟩ := endpoint_of_validateRedirectUri hvalid
                  exact ⟨redirectUri, expected, rfl, hredirect, hendpoint, state_ne_of_new hflow⟩

/-! ## Which callbacks are accepted -/

namespace OAuthAuthorizationBinding

variable {unicode : UnicodeData} {binding : OAuthAuthorizationBinding}

/-- The location is split into these parts, of which none differs from what was registered but
for the response parameters, and the state is there once. -/
structure Genuine (unicode : UnicodeData) (binding : OAuthAuthorizationBinding)
    (expected : SplitResult) (location : Text) (observed : SplitResult) : Prop where
  split : urlsplit unicode location = .ok observed
  endpoint : observed.scheme = expected.scheme ∧ observed.netloc = expected.netloc ∧
    observed.path = expected.path
  state : states (parseQsl observed.query) = [binding.flow.state]
  parameters : retained (parseQsl observed.query) = parseQsl expected.query

theorem validateCallbackState_eq_ok_iff (hstate : binding.flow.state ≠ []) {observed : Text} :
    binding.validateCallbackState observed = .ok () ↔ observed = binding.flow.state := by
  unfold validateCallbackState
  split_ifs with hempty hother
  · exact iff_of_false (nomatch ·) fun h => hstate (h ▸ hempty)
  · exact iff_of_false (nomatch ·) hother
  · exact iff_of_true rfl (not_not.mp hother)

/-- The comparison of the parts accepts exactly the callbacks that have the registered endpoint,
the bound state once, and the registered parameters beside those of the response. -/
theorem checkCallback_eq_ok_iff (hstate : binding.flow.state ≠ []) {observed expected : SplitResult} :
    binding.checkCallback observed expected = .ok () ↔
      (observed.scheme = expected.scheme ∧ observed.netloc = expected.netloc ∧
        observed.path = expected.path) ∧ states (parseQsl observed.query) = [binding.flow.state] ∧
        retained (parseQsl observed.query) = parseQsl expected.query := by
  unfold checkCallback
  by_cases hplace : (observed.scheme, observed.netloc, observed.path) =
      (expected.scheme, expected.netloc, expected.path)
  · rw [if_neg (not_not.mpr hplace)]
    have hparts : observed.scheme = expected.scheme ∧ observed.netloc = expected.netloc ∧
        observed.path = expected.path := by simpa using hplace
    rw [and_iff_right hparts]
    split
    · next state hstates =>
        rw [hstates, List.cons.injEq, and_iff_left rfl]
        by_cases hequal : state = binding.flow.state
        · rw [and_iff_right hequal, (validateCallbackState_eq_ok_iff hstate).mpr hequal]
          by_cases hretained : retained (parseQsl observed.query) = parseQsl expected.query
          · exact iff_of_true (if_neg (not_not.mpr hretained)) hretained
          · refine iff_of_false (fun h => ?_) hretained
            change (if _ then _ else _) = _ at h
            rw [if_pos hretained] at h
            cases h
        · refine iff_of_false (fun h => ?_) fun h => hequal h.1
          cases hstate : binding.validateCallbackState state with
          | error error =>
              rw [hstate] at h
              cases h
          | ok done => exact hequal ((validateCallbackState_eq_ok_iff ‹_›).mp hstate)
    · next hstates => exact iff_of_false (nomatch ·) fun h => hstates _ h.1
  · rw [if_pos hplace]
    refine iff_of_false (nomatch ·) fun h => hplace ?_
    rw [h.1.1, h.1.2.1, h.1.2.2]

/-- The whole check accepts exactly the locations that are endpoints and genuine. What is accepted
and what is refused later are the two directions of this. -/
theorem validateCallbackRedirect_eq_ok_iff {redirectUri : Text} {expected : SplitResult}
    {descriptor : OAuthFlow}
    (hregistered : Registered unicode descriptor binding redirectUri expected) (location : Text) :
    binding.validateCallbackRedirect unicode location = .ok () ↔
      ∃ observed, IsEndpoint unicode location observed ∧
        Genuine unicode binding expected location observed := by
  have hexpected : urlsplit unicode (binding.descriptor.redirectUri.getD []) = .ok expected := by
    rw [hregistered.descriptor_eq, hregistered.redirectUri_eq]
    exact hregistered.endpoint.split
  unfold validateCallbackRedirect
  simp only [bind, Except.bind, hexpected]
  constructor
  · intro h
    split at h
    · cases h
    · next hvalid =>
        obtain ⟨observed, hendpoint⟩ := validateUrl_eq_ok_iff.mp hvalid
        rw [hendpoint.split] at h
        obtain ⟨hplace, hstates, hretained⟩ :=
          (checkCallback_eq_ok_iff hregistered.state_ne).mp h
        exact ⟨observed, hendpoint, hendpoint.split, hplace, hstates, hretained⟩
  · rintro ⟨observed, hendpoint, hgenuine⟩
    rw [validateUrl_eq_ok_iff.mpr ⟨observed, hendpoint⟩]
    simp only [hendpoint.split]
    exact (checkCallback_eq_ok_iff hregistered.state_ne).mpr
      ⟨hgenuine.endpoint, hgenuine.state, hgenuine.parameters⟩

/-- A location that is not what was registered: it cannot be split, its scheme, its authority or
its path is another one, it has not the bound state once and no other, or its parameters that
are not of the response are not those that were registered. -/
def Tampered (unicode : UnicodeData) (binding : OAuthAuthorizationBinding)
    (expected : SplitResult) (location : Text) : Prop :=
  ∀ observed, ¬ Genuine unicode binding expected location observed

theorem isOneOf_responseKeys : isOneOf responseKeys "code".toList = true ∧
    isOneOf responseKeys "state".toList = true := by decide

theorem states_append (front rest : List (Text × Text)) :
    states (front ++ rest) = states front ++ states rest := by
  rw [states, List.filter_append, List.map_append]
  rfl

/-- A response that carries the code and the state to the redirect URI is accepted just when no
registered parameter is one of a response. -/
theorem appended_accepted_iff {redirectUri code added : Text} {expected : SplitResult}
    {descriptor : OAuthFlow}
    (hregistered : Registered unicode descriptor binding redirectUri expected)
    (htext : IsQueryText added)
    (hadded : parseQsl added = [("code".toList, code), ("state".toList, binding.flow.state)]) :
    binding.validateCallbackRedirect unicode (appendQuery redirectUri added) = .ok () ↔
      ∀ pair ∈ parseQsl expected.query, isOneOf responseKeys pair.1 = false := by
  have hendpoint := hregistered.endpoint.appendQuery htext
  have hquery : parseQsl (joinQuery expected.query added) = parseQsl expected.query ++
      [("code".toList, code), ("state".toList, binding.flow.state)] := by
    rw [parseQsl_joinQuery, hadded]
  have hretained : retained (parseQsl (joinQuery expected.query added)) =
      retained (parseQsl expected.query) := by
    rw [hquery, retained, List.filter_append]
    exact List.append_nil _
  rw [validateCallbackRedirect_eq_ok_iff hregistered]
  constructor
  · rintro ⟨observed, -, hgenuine⟩ pair hpair
    have hobserved := Except.ok.inj (hgenuine.split.symm.trans hendpoint.split)
    have hparameters := hgenuine.parameters
    rw [hobserved, hretained] at hparameters
    rw [← hparameters] at hpair
    simpa using (List.mem_filter.mp hpair).2
  · intro hfree
    refine ⟨_, hendpoint, hendpoint.split, ⟨rfl, rfl, rfl⟩, ?_, ?_⟩
    · rw [hquery, states_append]
      have hnone : states (parseQsl expected.query) = [] := by
        rw [states, List.map_eq_nil_iff, List.filter_eq_nil_iff]
        intro pair hpair hstate
        have hkey := hfree pair hpair
        rw [of_decide_eq_true hstate, isOneOf_responseKeys.2] at hkey
        cases hkey
      rw [hnone]
      rfl
    · rw [hretained]
      refine List.filter_eq_self.mpr fun pair hpair => ?_
      rw [hfree pair hpair]
      rfl

/-- The parameters of a response, percent-encoded. -/
def responseQuery (code state : Text) : Text :=
  urlencode [] [("code".toList, code), ("state".toList, state)]

/-- What `urlencode` writes may stand in a query. -/
theorem queryText_of_code : ∀ code : Fin 128,
    (Char.ofNat code = '&' ∨ Char.ofNat code = '=' ∨ isQuoteChar [] (Char.ofNat code) = true) →
      isRefusedChar (Char.ofNat code) = false ∧ Char.ofNat code ≠ '#' ∧ Char.ofNat code ≠ '\\' := by
  decide

/-- A code and a state that are written by `urlencode` are read back by `parse_qsl`, and nothing of
what is written is refused in a URL. -/
theorem responseQuery_spec (code state : Text) : IsQueryText (responseQuery code state) ∧
    parseQsl (responseQuery code state) = [("code".toList, code), ("state".toList, state)] := by
  have hsafe : '%' ∉ ([] : Text) ∧ '+' ∉ ([] : Text) := ⟨List.not_mem_nil, List.not_mem_nil⟩
  have hascii : ∀ character ∈ ([] : Text), isAscii character = true :=
    fun _ hmem => absurd hmem List.not_mem_nil
  refine ⟨fun character hmem => ?_, parseQsl_urlencode hsafe hascii
    ⟨List.not_mem_nil, List.not_mem_nil⟩ _⟩
  have hwritten := mem_urlencode hsafe hmem
  have hbelow : character.toNat < 128 := by
    have hcharacter : isAscii character = true := by
      rcases hwritten with rfl | rfl | hquote
      · rfl
      · rfl
      · exact isAscii_isQuoteChar hascii hquote
    rw [isAscii, decide_eq_true_eq, UInt32.lt_iff_toNat_lt] at hcharacter
    exact hcharacter
  have hcode := queryText_of_code ⟨character.toNat, hbelow⟩
  rw [Char.ofNat_toNat] at hcode
  exact hcode hwritten

/-- For a registered flow: the responses that carry a code and the bound state to the redirect
URI are accepted and every tampered location is rejected, just when no parameter of the redirect
URI, blank ones included, is one of a response. -/
theorem callback_exact_iff {descriptor : OAuthFlow} {state : Option Text}
    {verifier generated : Token}
    (h : beginAuthorizationCode unicode descriptor state verifier generated = .ok binding) :
    ∃ redirectUri expected, descriptor.redirectUri = some redirectUri ∧
      urlsplit unicode redirectUri = .ok expected ∧
      (((∀ code ≠ [], binding.validateCallbackRedirect unicode
            (appendQuery redirectUri (responseQuery code binding.flow.state)) = .ok ()) ∧
          ∀ location, Tampered unicode binding expected location →
            ∃ refusal, binding.validateCallbackRedirect unicode location = .error refusal) ↔
        ∀ pair ∈ parseQsl expected.query, isOneOf responseKeys pair.1 = false) := by
  obtain ⟨redirectUri, expected, hregistered⟩ := registered_of_begin h
  have haccepted : ∀ code, binding.validateCallbackRedirect unicode
      (appendQuery redirectUri (responseQuery code binding.flow.state)) = .ok () ↔
        ∀ pair ∈ parseQsl expected.query, isOneOf responseKeys pair.1 = false := fun code =>
    appended_accepted_iff hregistered (responseQuery_spec _ _).1 (responseQuery_spec _ _).2
  have hrejected : ∀ location, Tampered unicode binding expected location →
      ∃ refusal, binding.validateCallbackRedirect unicode location = .error refusal := by
    intro location htampered
    cases hresult : binding.validateCallbackRedirect unicode location with
    | error refusal => exact ⟨refusal, rfl⟩
    | ok done =>
        obtain ⟨observed, -, hgenuine⟩ :=
          (validateCallbackRedirect_eq_ok_iff hregistered location).mp hresult
        exact absurd hgenuine (htampered observed)
  refine ⟨redirectUri, expected, hregistered.redirectUri_eq, hregistered.endpoint.split, ?_⟩
  rw [and_iff_left hrejected]
  exact ⟨fun hall => (haccepted ['x']).mp (hall ['x'] (List.cons_ne_nil _ _)),
    fun hfree code _ => (haccepted code).mpr hfree⟩

/-! ## Two registrations -/

/-- A flow with this redirect URI. -/
def sampleFlow (redirectUri : String) : OAuthFlow where
  authorizationUrl := "https://auth.example/authorize".toList
  tokenUrl := "https://auth.example/token".toList
  clientId := "client".toList
  scopes := []
  supportsRefresh := true
  redirectUri := some redirectUri.toList

def sampleToken : Token := ⟨"generated".toList, by decide⟩

/-- Its binding to the state `s`. -/
def sampleBinding (redirectUri : String) : OAuthAuthorizationBinding :=
  ⟨sampleFlow redirectUri, sampleFlow redirectUri, sampleToken.text, "s".toList⟩

theorem callback_exact_tenant : ∃ redirectUri expected,
    (sampleFlow "https://app.example/cb?tenant=a").redirectUri = some redirectUri ∧
      urlsplit .ascii redirectUri = .ok expected ∧
      (((∀ code ≠ [], (sampleBinding "https://app.example/cb?tenant=a").validateCallbackRedirect
            .ascii (appendQuery redirectUri (responseQuery code "s".toList)) = .ok ()) ∧
          ∀ location, Tampered .ascii (sampleBinding "https://app.example/cb?tenant=a") expected
            location → ∃ refusal, (sampleBinding
              "https://app.example/cb?tenant=a").validateCallbackRedirect .ascii location =
                .error refusal) ↔
        ∀ pair ∈ parseQsl expected.query, isOneOf responseKeys pair.1 = false) := by
  have hbegin : beginAuthorizationCode .ascii (sampleFlow "https://app.example/cb?tenant=a")
      (some "s".toList) sampleToken sampleToken =
        .ok (sampleBinding "https://app.example/cb?tenant=a") := by
    decide +kernel
  exact callback_exact_iff hbegin

/-- A redirect URI with a blank state is constructed and registered, and the response to it is
refused. -/
theorem blank_state_refused :
    OAuthFlow.new .ascii "https://auth.example/authorize".toList "https://auth.example/token".toList
        "client".toList [] true (some "https://app.example/cb?state=".toList) =
      .ok (sampleFlow "https://app.example/cb?state=") ∧
    beginAuthorizationCode .ascii (sampleFlow "https://app.example/cb?state=") (some "s".toList)
        sampleToken sampleToken = .ok (sampleBinding "https://app.example/cb?state=") ∧
    (sampleBinding "https://app.example/cb?state=").validateCallbackRedirect .ascii
        (appendQuery "https://app.example/cb?state=".toList
          (responseQuery "x".toList "s".toList)) =
      .error (.valueError "The uData callback redirect must contain exactly one state.") := by
  decide +kernel

end OAuthAuthorizationBinding

end DataSluice.Catalog.Oauth
