/-
# Capabilities of a CKAN client

`SyncCKANClient` and `AsyncCKANClient` as far as capabilities go: what a dispatch looks at
before it sends anything, what the decoder records of a response, and what `capability`
reports. The decoder records under the scope of the credential and `capability` looks there;
a dispatch resolves the operation under the default scope of `resolve`, whatever its
credential is.

A dispatch is one step up to the point where its request is prepared, and its response is
another; what a probe runner answers is up to the environment.
-/

import DataSluice.Lib.Transition
import DataSluice.Runtime.CapabilityBarrier

namespace DataSluice.Catalog.Ckan

open DataSluice.Lib DataSluice.Domain DataSluice.Runtime DataSluice.Runtime.Capability

/-! ## The client -/

/-- What a client keeps from its construction. -/
structure ClientConfig where
  /-- The configuration of `EffectiveCapabilityCache`. -/
  capabilities : CacheConfig
  /-- The mode of the client, which tells whose probe runner it uses. -/
  mode : Mode
  /-- `probe_policy == "auto"` -/
  autoProbe : Bool

/-- How far a dispatch has come. -/
inductive DispatchPhase
  | idle
  | refused (error : Raised)
  | sent (operation : OperationId) (credentialScope : String)
  | answered

/-- The client, its dispatches, and the responses it has recorded. -/
structure Client where
  entries : List (CacheKey × TimedCache.Entry EffectiveCapabilityProfile)
  /-- `_credential_scope` -/
  credentialScope : String
  clock : ℚ
  calls : Nat → DispatchPhase
  recorded : List (OperationId × String × ProbeResponseClass)

/-- `_STATUS_RESPONSE_CLASSES` -/
def statusResponseClass (statusCode : Int) : Option ProbeResponseClass :=
  if statusCode = 401 then some .unauthorized
  else if statusCode = 403 then some .forbidden
  else none

/-- `_capability_value` -/
def capabilityValue : EffectiveCapabilityState → String
  | .core | .optional | .authenticated | .admin => "available"
  | state => state.value

/-- What a dispatch resolved its operation to: a profile or the exception of a probe, the
credential scope of the evidence behind it, and whether a probe was made. The baseline has no
evidence behind it. -/
structure Resolved where
  profile : Except Raised EffectiveCapabilityProfile
  evidenceScope : Option String
  probed : Bool

/-- What a dispatch comes to before its request is prepared. -/
inductive Decision
  | /-- An error, the credential scope of the evidence it goes by, and whether a probe was
    made. -/
    refused (error : Raised) (evidenceScope : Option String) (probed : Bool)
  | allowed

namespace Client

variable (config : ClientConfig) (client : Client)

/-- The fresh entry of an operation under a credential scope. -/
def fresh (operation : OperationId) (credentialScope : String) :
    Option EffectiveCapabilityProfile :=
  (config.capabilities.freshEntry client.entries
    (config.capabilities.cacheKey operation credentialScope) client.clock).1.map
      TimedCache.Entry.payload

/-- `EffectiveCapabilityCache.peek` -/
def peek (operation : OperationId) (credentialScope : String) : EffectiveCapabilityProfile :=
  (client.fresh config operation credentialScope).getD config.capabilities.baseline

/-- What is reported of an operation under a credential scope. -/
def report (operation : OperationId) (credentialScope : String) : String :=
  capabilityValue ((client.peek config operation credentialScope).guard operation).state

/-- `capability` for a declared operation. -/
def capability (operation : OperationId) : String :=
  client.report config operation client.credentialScope

/-- There is nothing that `resolve` could probe. -/
abbrev NothingToProbe (config : ClientConfig) (operation : OperationId) : Prop :=
  (config.capabilities.declaredProfile.operations operation).isNone ∨
    config.capabilities.hasRunner config.mode = false

/-- `EffectiveCapabilityCache.resolve` and `resolve_async` for one dispatch at a time. -/
def resolve (operation : OperationId) (credentialScope : String)
    (answer : Except Raised ProbeEvidence) : Resolved :=
  match client.fresh config operation credentialScope with
  | some profile => ⟨.ok profile, some credentialScope, false⟩
  | none =>
      if NothingToProbe config operation then ⟨.ok config.capabilities.baseline, none, false⟩
      else
        ⟨config.capabilities.resolveFromRunner operation credentialScope answer,
          some credentialScope, true⟩

/-- The entries after a dispatch has resolved its operation. -/
def entriesAfter (operation : OperationId) (credentialScope : String) (resolved : Resolved) :
    List (CacheKey × TimedCache.Entry EffectiveCapabilityProfile) :=
  let key := config.capabilities.cacheKey operation credentialScope
  let looked := (config.capabilities.freshEntry client.entries key client.clock).2
  match resolved.probed, resolved.profile with
  | true, .ok profile => config.capabilities.storeEntry looked key profile client.clock
  | _, _ => looked

/-- `_require_optional_evidence` -/
def requireOptionalEvidence (operation : OperationId) : Except Raised Unit :=
  match config.capabilities.declaredProfile.operations operation with
  | none => .ok ()
  | some spec =>
      if config.autoProbe = true ∧ spec.capabilityClass = .optional ∧
          config.capabilities.hasRunner config.mode = false then
        .error
          { errorClass := .unsupportedCapability
            message := operation.text ++ " is an optional CKAN capability and requires probe " ++
              "evidence before dispatch."
            operation := some operation.text
            platform := some "ckan"
            capabilityState := some "optional"
            safeAction := some <|
              "Attach a probe runner (probe_runner= or async_probe_runner=) or select " ++
              "declared-baseline probing explicitly via " ++
              "CKANClientSettings(probe_policy='declared-baseline')." }
      else .ok ()

/-- The guard of a resolved operation: `_prepare_dispatch` begins with it. -/
def decide (operation : OperationId) (resolved : Resolved) : Decision :=
  match resolved.profile with
  | .error error => .refused error none resolved.probed
  | .ok profile =>
      match requireAllowed operation profile with
      | .ok () => .allowed
      | .error error => .refused error resolved.evidenceScope resolved.probed

/-- What `_dispatch` resolves an operation to: it names no credential scope, so that of
`resolve` is the default one. -/
def resolved (operation : OperationId) (answer : Except Raised ProbeEvidence) : Resolved :=
  client.resolve config operation "anonymous" answer

/-- The capability checks of `_dispatch`. -/
def decision (operation : OperationId) (answer : Except Raised ProbeEvidence) : Decision :=
  match requireOptionalEvidence config operation with
  | .error error => .refused error none false
  | .ok () => decide operation (client.resolved config operation answer)

/-- `_dispatch` up to the preparation of its request. -/
def dispatch (call : Nat) (operation : OperationId) (credentialScope : String)
    (answer : Except Raised ProbeEvidence) : Client :=
  match requireOptionalEvidence config operation with
  | .error error => { client with calls := Function.update client.calls call (.refused error) }
  | .ok () =>
      let resolved := client.resolved config operation answer
      { client with
        credentialScope := credentialScope
        entries := client.entriesAfter config operation "anonymous" resolved
        calls := Function.update client.calls call
          (match decide operation resolved with
          | .refused error _ _ => .refused error
          | .allowed => .sent operation credentialScope) }

/-- What `_decode` records of a response. -/
def decode (operation : OperationId) (credentialScope : String) (statusCode : Int) : Client :=
  match statusResponseClass statusCode with
  | none => client
  | some responseClass =>
      { client with
        entries := config.capabilities.storeEntry client.entries
          (config.capabilities.cacheKey operation credentialScope)
          (config.capabilities.responseProfile operation responseClass) client.clock
        recorded := (operation, credentialScope, responseClass) :: client.recorded }

end Client

/-- The things that happen to a client. -/
inductive ClientEvent
  | tick (now : ℚ)
  | dispatch (call : Nat) (operation : OperationId) (credentialScope : String)
      (answer : Except Raised ProbeEvidence)
  | respond (call : Nat) (statusCode : Int)

namespace Client

/-- One step of a client. -/
def step (config : ClientConfig) (client : Client) : ClientEvent → Option Client
  | .tick now => if client.clock ≤ now then some { client with clock := now } else none
  | .dispatch call operation credentialScope answer =>
      match client.calls call with
      | .idle =>
          if credentialScope = "" then none
          else some (client.dispatch config call operation credentialScope answer)
      | _ => none
  | .respond call statusCode =>
      match client.calls call with
      | .sent operation credentialScope =>
          some { client.decode config operation credentialScope statusCode with
            calls := Function.update client.calls call .answered }
      | _ => none

/-- A client that has dispatched nothing. -/
def start (credentialScope : String) (clock : ℚ) : Client where
  entries := []
  credentialScope := credentialScope
  clock := clock
  calls _ := .idle
  recorded := []

/-- The sequences of dispatches and responses of a client. -/
def system (config : ClientConfig) : System Client ClientEvent where
  init client := ∃ credentialScope clock, client = start credentialScope clock
  step client := step config client

variable {config : ClientConfig} {client next : Client}

/-! ## What is recorded under a scope -/

/-- An entry under the scope of a credential was recorded from a response to a request with
that scope. -/
def EntriesRecorded (config : ClientConfig) (client : Client) : Prop :=
  ∀ key entry, (key, entry) ∈ client.entries → key.credentialScope ≠ "anonymous" →
    ∃ responseClass, (key.operationId, key.credentialScope, responseClass) ∈ client.recorded ∧
      entry.payload = config.capabilities.responseProfile key.operationId responseClass

theorem EntriesRecorded.dispatch (hrecorded : client.EntriesRecorded config) (call : Nat)
    (operation : OperationId) (credentialScope : String)
    (answer : Except Raised ProbeEvidence) :
    (client.dispatch config call operation credentialScope answer).EntriesRecorded config := by
  have hlooked : ∀ key entry, (key, entry) ∈ (config.capabilities.freshEntry client.entries
      (config.capabilities.cacheKey operation "anonymous") client.clock).2 →
        (key, entry) ∈ client.entries :=
    fun key entry hmem => (TimedCache.fresh_sublist _ _ _ _).subset hmem
  unfold Client.dispatch
  split
  · exact hrecorded
  · intro key entry hmem hscope
    simp only [entriesAfter] at hmem
    split at hmem
    · rcases TimedCache.mem_store hmem with ⟨rfl, -⟩ | ⟨-, hold⟩
      · exact absurd rfl hscope
      · exact hrecorded key entry (hlooked key entry hold) hscope
    · exact hrecorded key entry (hlooked key entry hmem) hscope

theorem EntriesRecorded.decode (hrecorded : client.EntriesRecorded config)
    (operation : OperationId) (credentialScope : String) (statusCode : Int) :
    (client.decode config operation credentialScope statusCode).EntriesRecorded config := by
  unfold Client.decode
  split
  · exact hrecorded
  · rename_i responseClass _
    intro key entry hmem hscope
    rcases TimedCache.mem_store hmem with ⟨rfl, rfl⟩ | ⟨-, hold⟩
    · exact ⟨responseClass, List.mem_cons_self, rfl⟩
    · obtain ⟨found, hfound, hprofile⟩ := hrecorded key entry hold hscope
      exact ⟨found, List.mem_cons_of_mem _ hfound, hprofile⟩

theorem EntriesRecorded.of_reachable (hreach : (system config).Reachable client) :
    client.EntriesRecorded config := by
  apply hreach.invariant
  · rintro _ ⟨credentialScope, clock, rfl⟩ key entry hmem
    cases hmem
  · intro source event target hrecorded _ hstep
    cases event with
    | tick now =>
        simp only [system, Client.step, Option.ite_none_right_eq_some] at hstep
        cases hstep.2
        exact hrecorded
    | dispatch call operation credentialScope answer =>
        simp only [system, Client.step] at hstep
        split at hstep
        · simp only [Option.ite_none_left_eq_some] at hstep
          cases hstep.2
          exact hrecorded.dispatch call operation credentialScope answer
        · cases hstep
    | respond call statusCode =>
        simp only [system, Client.step] at hstep
        split at hstep
        · rename_i operation credentialScope _
          cases hstep
          exact hrecorded.decode operation credentialScope statusCode
        · cases hstep

/-! ## Reported and enforced -/

/-- A client for one operation, without a probe runner. -/
def oneOperation : ClientConfig where
  capabilities := { Capability.oneOperation with
    probeRunner := false
    asyncProbeRunner := false }
  mode := .sync
  autoProbe := false

end Client

end DataSluice.Catalog.Ckan
