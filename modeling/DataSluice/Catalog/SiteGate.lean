/-
# The site-version gate

`SiteVersionGate` and `AsyncSiteVersionGate`: what a site probe proves about a deployment,
and the interleavings of `require_current`, `require_current_async` and `invalidate`. A call
looks at the cache in one section that holds the lock and stores the result of its probe in
another; nothing in the second one looks at what was invalidated since the probe started.

The model keeps how many invalidations there had been when a probe and a call started.
-/

import DataSluice.Lib.Transition
import DataSluice.Runtime.RetryLoop
import Mathlib.Logic.Function.Basic

namespace DataSluice.Catalog

open DataSluice.Lib DataSluice.Domain DataSluice.Runtime

/-! ## What a probe proves -/

/-- `_VERSION_PATTERN.fullmatch`: three runs of decimal digits with dots between them. -/
def isVersion (isDecimal : Char → Bool) (text : String) : Bool :=
  match text.toList.splitOn '.' with
  | [major, minor, micro] =>
      [major, minor, micro].all fun digits => !digits.isEmpty && digits.all isDecimal
  | _ => false

/-- `SiteVersion` -/
structure SiteVersion (isDecimal : Char → Bool) where
  version : String
  siteId : Option String
  version_valid : isVersion isDecimal version = true
  siteId_ne : siteId ≠ some ""

/-- `SITE_OPERATION_ID` -/
def siteOperationId : String := "udata/api-v1.root-and-effective-profile-probe"

/-- `UDataVersionError` -/
def versionError (versionState message safeAction : String) : Raised where
  errorClass := .versionError
  message := message
  operation := some siteOperationId
  platform := some "udata"
  capabilityState := some "unavailable"
  safeAction := some safeAction
  metadata := [(.text "version_state", .str versionState)]

/-- `_SITE_KEYS` without the version. -/
def siteKeys : List String := ["feed_size", "id", "keywords", "metrics", "title"]

/-- `payload.get(key)` of a `dict`. -/
def lookup (payload : List (Key × Value)) (key : String) : Option Value :=
  (payload.find? fun entry => decide (entry.1 = .text key)).map Prod.snd

/-- The value is a string that looks like a version. -/
def isVersionValue (isDecimal : Char → Bool) : Value → Bool
  | .str text => isVersion isDecimal text
  | _ => false

/-- `parse_site_version` -/
def parseSiteVersion (isDecimal : Char → Bool) (payload : Value) :
    Except Raised (SiteVersion isDecimal) :=
  match payload with
  | .dict entries =>
      match lookup entries "version" with
      | none => .error (versionError "missing"
          "The uData site probe response omitted the version field."
          "Verify the deployment exposes the stock /api/1/site/ document before dispatching.")
      | some version =>
          if (siteKeys.any fun key => (lookup entries key).any (isVersionValue isDecimal)) then
            .error (versionError "ambiguous"
              "The uData site probe response carries conflicting version evidence."
              "Verify the deployment serves an unmodified stock /api/1/site/ document.")
          else
            match version with
            | .str text =>
                if hversion : isVersion isDecimal text = true then
                  match lookup entries "id" with
                  | some (.str site) =>
                      if hsite : site = "" then .ok ⟨text, none, hversion, nofun⟩
                      else
                        .ok ⟨text, some site, hversion, fun hsome => hsite (Option.some.inj hsome)⟩
                  | _ => .ok ⟨text, none, hversion, nofun⟩
                else .error malformed
            | _ => .error malformed
  | _ => .error (versionError "malformed"
      "The uData site probe did not return a JSON object payload."
      "Retry against a stock uData deployment serving /api/1/site/ JSON.")
where
  /-- The error for a version of another type or shape. -/
  malformed : Raised := versionError "malformed"
    "The uData site probe response carries a malformed version value."
    "Verify the deployment serves the stock /api/1/site/ document before dispatching."

/-- What the constructor of the gate keeps, and the two things that are not the gate's: which
characters are decimal digits, and `json.loads`, which has no result when it raises a
`TypeError` or `ValueError`. -/
structure SiteGateConfig where
  /-- An `AsyncSiteVersionGate`. -/
  asynchronous : Bool
  pinnedVersion : String
  /-- A synchronous transport is attached. -/
  hasTransport : Bool
  ttlSeconds : ℚ
  isDecimal : Char → Bool
  loads : List UInt8 → Option Value

namespace SiteGateConfig

variable (config : SiteGateConfig)

/-- `require_exact_version` -/
def requireExactVersion (observed : SiteVersion config.isDecimal) :
    Except Raised (SiteVersion config.isDecimal) :=
  if observed.version ≠ config.pinnedVersion then
    .error (versionError "malformed"
      ("The uData deployment reported " ++ observed.version ++ ", not the pinned " ++
        config.pinnedVersion ++ ".")
      ("Point the connector at a deployment running the exact pinned uData release; " ++
        "version drift requires a reviewed capability profile change."))
  else .ok observed

/-- `_transport_error` -/
def transportError : Raised := mapCatalogError
  { message := "The uData site probe transport failed."
    operation := siteOperationId
    platform := "udata" }

/-- The error for a status that asks for access. -/
def accessError (statusCode : Int) : Raised := mapCatalogError
  { message := "The uData site probe requires deployment access."
    operation := siteOperationId
    platform := "udata"
    statusCode := some statusCode }

/-- `_decode_probe`, after the check of the deadline. -/
def decodeProbe (response : RuntimeResponse) : Except Raised (SiteVersion config.isDecimal) :=
  if response.statusCode ∈ [401, 403, 423] then .error (accessError response.statusCode)
  else if ¬ (200 ≤ response.statusCode ∧ response.statusCode < 300) then
    .error (versionError "missing"
      ("The uData site probe returned HTTP " ++ toString response.statusCode ++ ".")
      "Verify the deployment origin exposes the stock /api/1/site/ document.")
  else
    match config.loads response.body with
    | none => .error (versionError "malformed"
        "The uData site probe returned an invalid JSON result."
        "Verify the deployment serves the stock /api/1/site/ JSON document.")
    | some payload =>
        (parseSiteVersion config.isDecimal payload).bind config.requireExactVersion

end SiteGateConfig

/-- How a probe ends: a check of the deadline raises, or the transport answers. -/
inductive ProbeEnd
  | exhausted (error : Raised)
  | sent (answer : Except Raised RuntimeResponse)

/-- `_probe` and `_probe_async` after the transport was found to be there. -/
def SiteGateConfig.probe (config : SiteGateConfig) :
    ProbeEnd → Except Raised (SiteVersion config.isDecimal)
  | .exhausted error => .error error
  | .sent (.ok response) => config.decodeProbe response
  | .sent (.error error) =>
      if error.errorClass = .budgetExhausted ∨ error.isException = false then .error error
      else .error SiteGateConfig.transportError

/-! ## The gate -/

/-- Evidence, and how many invalidations there had been when its probe started. -/
structure Evidence (config : SiteGateConfig) where
  observed : SiteVersion config.isDecimal
  probe : Nat

/-- How far a call has come. -/
inductive GatePhase (config : SiteGateConfig)
  | idle
  | missed
  | probing (probe : Nat)
  | probed (evidence : Evidence config)
  | /-- The call returned what it found in the cache. -/
    served (evidence : Evidence config)
  | ended (outcome : Except Raised (SiteVersion config.isDecimal))

/-- A call for a credential scope, and how many invalidations there had been when it
started. -/
structure GateCall (config : SiteGateConfig) where
  scope : String
  startedAt : Nat
  phase : GatePhase config

/-- The gate and the calls on it. -/
structure SiteGate (config : SiteGateConfig) where
  cache : String → Option (Evidence config × ℚ)
  clock : ℚ
  /-- The number of invalidations. -/
  epoch : Nat
  calls : Nat → GateCall config

/-- The scheduler's choices. -/
inductive GateEvent
  | tick (now : ℚ)
  | requireCurrent (call : Nat) (scope : String)
  | requireCurrentAsync (call : Nat) (scope : String)
  | startProbe (call : Nat)
  | endProbe (call : Nat) (answer : ProbeEnd)
  | store (call : Nat)
  | invalidate

namespace SiteGate

variable {config : SiteGateConfig} (gate : SiteGate config)

/-- Put one call into a new phase. -/
def goto (call : Nat) (phase : GatePhase config) : SiteGate config :=
  { gate with
    calls := Function.update gate.calls call { gate.calls call with phase := phase } }

/-- Start a call. -/
def start (call : Nat) (scope : String) (phase : GatePhase config) : SiteGate config :=
  { gate with calls := Function.update gate.calls call ⟨scope, gate.epoch, phase⟩ }

/-- The first section of a call. -/
def check (call : Nat) (scope : String) : SiteGate config :=
  match gate.cache scope with
  | some (evidence, storedAt) =>
      if gate.clock - storedAt ≤ config.ttlSeconds then gate.start call scope (.served evidence)
      else gate.start call scope .missed
  | none => gate.start call scope .missed

variable {gate} in
/-- A call finds evidence that has not outlived its time to live. -/
theorem check_of_fresh {scope : String} {evidence : Evidence config} {storedAt : ℚ}
    (hfound : gate.cache scope = some (evidence, storedAt))
    (hfresh : gate.clock - storedAt ≤ config.ttlSeconds) (call : Nat) :
    gate.check call scope = gate.start call scope (.served evidence) := by
  simp only [check, hfound, hfresh, if_true]

/-- The error of `AsyncSiteVersionGate.require_current`. -/
def awaitError : Raised where
  errorClass := .unavailable
  message := "The asynchronous site gate must be awaited through require_current_async."
  operation := some siteOperationId
  platform := some "udata"
  capabilityState := some "unavailable"
  safeAction := some
    "Call require_current_async or construct the client with a synchronous SiteVersionGate."

/-- One scheduled step. -/
def step : GateEvent → Option (SiteGate config)
  | .tick now => if gate.clock ≤ now then some { gate with clock := now } else none
  | .requireCurrent call scope =>
      match (gate.calls call).phase with
      | .idle =>
          if config.asynchronous then some (gate.start call scope (.ended (.error awaitError)))
          else some (gate.check call scope)
      | _ => none
  | .requireCurrentAsync call scope =>
      match (gate.calls call).phase with
      | .idle => if config.asynchronous then some (gate.check call scope) else none
      | _ => none
  | .startProbe call =>
      match (gate.calls call).phase with
      | .missed =>
          if config.asynchronous = false ∧ config.hasTransport = false then
            some (gate.goto call (.ended (.error (.runtimeError
              "The strict site gate requires a synchronous transport."))))
          else some (gate.goto call (.probing gate.epoch))
      | _ => none
  | .endProbe call answer =>
      match (gate.calls call).phase with
      | .probing probe =>
          match config.probe answer with
          | .ok observed => some (gate.goto call (.probed ⟨observed, probe⟩))
          | .error error => some (gate.goto call (.ended (.error error)))
      | _ => none
  | .store call =>
      match (gate.calls call).phase with
      | .probed evidence =>
          some { gate.goto call (.ended (.ok evidence.observed)) with
            cache := Function.update gate.cache (gate.calls call).scope
              (some (evidence, gate.clock)) }
      | _ => none
  | .invalidate => some { gate with cache := fun _ => none, epoch := gate.epoch + 1 }

/-- A gate that no call has used yet. -/
def fresh (config : SiteGateConfig) (clock : ℚ) : SiteGate config where
  cache _ := none
  clock := clock
  epoch := 0
  calls _ := ⟨"", 0, .idle⟩

/-- The interleavings of calls on one gate. -/
def system (config : SiteGateConfig) : System (SiteGate config) GateEvent where
  init gate := ∃ clock, gate = fresh config clock
  step := step

/-! ## Invalidation -/

/-- No call is served evidence of a probe that started before an invalidation before the
call. -/
def ServesCurrent : Prop :=
  ∀ call evidence, (gate.calls call).phase = .served evidence →
    evidence.probe = (gate.calls call).startedAt

/-- A call stores its evidence only when nothing was invalidated since its probe started. -/
def StoresCurrent : GateEvent → Prop
  | .store call => ∀ evidence, (gate.calls call).phase = .probed evidence →
      evidence.probe = gate.epoch
  | _ => True

/-- What holds when every store meets the condition. -/
structure Barrier : Prop where
  cache : ∀ scope evidence storedAt, gate.cache scope = some (evidence, storedAt) →
    evidence.probe = gate.epoch
  served : gate.ServesCurrent

variable {gate} {next : SiteGate config}

/-- A call moves on without being served. -/
theorem Barrier.setCall (hbarrier : gate.Barrier) {call : Nat} {record : GateCall config}
    (hrecord : ∀ evidence, record.phase = .served evidence →
      evidence.probe = record.startedAt) :
    Barrier { gate with calls := Function.update gate.calls call record } where
  cache := hbarrier.cache
  served other evidence := by
    show (Function.update gate.calls call record other).phase = .served evidence →
      evidence.probe = (Function.update gate.calls call record other).startedAt
    by_cases hother : other = call
    · rw [hother, Function.update_self]
      exact hrecord evidence
    · rw [Function.update_of_ne hother]
      exact hbarrier.served other evidence

theorem Barrier.setCall_unserved (hbarrier : gate.Barrier) {call : Nat} {record : GateCall config}
    (hrecord : ∀ evidence, record.phase ≠ .served evidence) :
    Barrier { gate with calls := Function.update gate.calls call record } :=
  hbarrier.setCall fun evidence hserved => absurd hserved (hrecord evidence)

theorem Barrier.check (hbarrier : gate.Barrier) (call : Nat) (scope : String) :
    (gate.check call scope).Barrier := by
  unfold SiteGate.check
  split
  · rename_i evidence storedAt hfound
    split
    · apply hbarrier.setCall
      intro found hserved
      cases hserved
      exact hbarrier.cache scope evidence storedAt hfound
    · exact hbarrier.setCall_unserved (by simp)
  · exact hbarrier.setCall_unserved (by simp)

theorem Barrier.step (hbarrier : gate.Barrier) {event : GateEvent}
    (hcurrent : gate.StoresCurrent event) (hstep : gate.step event = some next) :
    next.Barrier := by
  cases event with
  | tick now =>
      simp only [SiteGate.step, Option.ite_none_right_eq_some] at hstep
      cases hstep.2
      exact ⟨hbarrier.cache, hbarrier.served⟩
  | requireCurrent call scope =>
      simp only [SiteGate.step] at hstep
      split at hstep
      · split at hstep
        · cases hstep
          exact hbarrier.setCall_unserved (by simp)
        · cases hstep
          exact hbarrier.check call scope
      · cases hstep
  | requireCurrentAsync call scope =>
      simp only [SiteGate.step] at hstep
      split at hstep
      · simp only [Option.ite_none_right_eq_some] at hstep
        cases hstep.2
        exact hbarrier.check call scope
      · cases hstep
  | startProbe call =>
      simp only [SiteGate.step] at hstep
      split at hstep
      · split at hstep
        · cases hstep
          exact hbarrier.setCall_unserved (by simp)
        · cases hstep
          exact hbarrier.setCall_unserved (by simp)
      · cases hstep
  | endProbe call answer =>
      simp only [SiteGate.step] at hstep
      split at hstep
      · split at hstep
        · cases hstep
          exact hbarrier.setCall_unserved (by simp)
        · cases hstep
          exact hbarrier.setCall_unserved (by simp)
      · cases hstep
  | store call =>
      simp only [SiteGate.step] at hstep
      split at hstep
      · rename_i evidence hprobed
        cases hstep
        have hended : (gate.goto call (.ended (.ok evidence.observed))).Barrier :=
          hbarrier.setCall_unserved (by simp)
        refine ⟨?_, hended.served⟩
        intro scope found storedAt hfound
        by_cases hscope : scope = (gate.calls call).scope
        · rw [hscope] at hfound
          simp only [Function.update_self, Option.some.injEq, Prod.mk.injEq] at hfound
          rw [← hfound.1]
          exact hcurrent evidence hprobed
        · simp only [Function.update_of_ne hscope] at hfound
          exact hbarrier.cache scope found storedAt hfound
      · cases hstep
  | invalidate =>
      cases hstep
      exact ⟨fun _ _ _ hfound => (by cases hfound), hbarrier.served⟩

/-- In every run in which a call stores its evidence only when nothing was invalidated since
its probe started, no call is served evidence of a probe that started before an invalidation
before the call. -/
theorem serves_current_of_stores_current (config : SiteGateConfig) :
    ∀ gate, (system config).ReachableUnder StoresCurrent gate → gate.ServesCurrent := by
  intro gate hreach
  have hbarrier : gate.Barrier := by
    apply hreach.invariant
    · rintro _ ⟨clock, rfl⟩
      exact ⟨fun _ _ _ hfound => (by cases hfound), fun _ _ hserved => (by cases hserved)⟩
    · intro source event target hbarrier hcurrent hstep
      exact hbarrier.step hcurrent hstep
  exact hbarrier.served

/-- After a store that does not meet the condition, the next call for the scope is served the
evidence that was invalidated. -/
theorem stale_store_is_served {call other : Nat} {evidence : Evidence config}
    (httl : 0 ≤ config.ttlSeconds) (hsync : config.asynchronous = false)
    (hprobed : (gate.calls call).phase = .probed evidence)
    (hidle : (gate.calls other).phase = .idle) (hstale : evidence.probe ≠ gate.epoch) :
    ∃ last, (system config).run gate
      [.store call, .requireCurrent other (gate.calls call).scope] = some last ∧
        ¬ last.ServesCurrent := by
  have hne : other ≠ call := by
    rintro rfl
    rw [hprobed] at hidle
    cases hidle
  set stored : SiteGate config := { gate.goto call (.ended (.ok evidence.observed)) with
    cache := Function.update gate.cache (gate.calls call).scope
      (some (evidence, gate.clock)) }
  refine ⟨stored.start other (gate.calls call).scope (.served evidence), ?_, fun hserves => ?_⟩
  · have hstore : gate.step (.store call) = some stored := by
      simp only [SiteGate.step, hprobed]
      rfl
    have hphase : (stored.calls other).phase = .idle := by
      show (Function.update gate.calls call _ other).phase = .idle
      rw [Function.update_of_ne hne]
      exact hidle
    have hfound : stored.cache (gate.calls call).scope = some (evidence, gate.clock) :=
      Function.update_self _ _ _
    have hrequire : stored.step (.requireCurrent other (gate.calls call).scope) =
        some (stored.start other (gate.calls call).scope (.served evidence)) := by
      have hfresh : stored.clock - gate.clock ≤ config.ttlSeconds := by
        rw [show stored.clock = gate.clock from rfl, sub_self]
        exact httl
      simp only [SiteGate.step, hphase, hsync, check_of_fresh hfound hfresh, Bool.false_eq_true,
        if_false]
    simp only [System.run, SiteGate.system, hstore, hrequire, Option.bind_some]
  · have hcall : (stored.start other (gate.calls call).scope (.served evidence)).calls other =
        ⟨(gate.calls call).scope, gate.epoch, .served evidence⟩ := Function.update_self _ _ _
    have hcurrent := hserves other evidence (by rw [hcall])
    rw [hcall] at hcurrent
    exact hstale hcurrent

/-- A gate whose deployments all answer with the pinned version. -/
def pinnedGate : SiteGateConfig where
  asynchronous := false
  pinnedVersion := "17.6.0"
  hasTransport := true
  ttlSeconds := 60
  isDecimal := Char.isDigit
  loads _ := some (.dict [(.text "version", .str "17.6.0")])

theorem siteDocument_names : ∀ header ∈ ([] : List (String × String)), header.1 ≠ "" := nofun

theorem siteDocument_retryAfter : ∀ delay ∈ (none : Option ℚ), 0 ≤ delay := nofun

/-- The answer of such a deployment. -/
def siteDocument : RuntimeResponse where
  statusCode := 200
  headers := []
  body := []
  retryAfter := none
  statusCode_valid := rfl
  names_ne := siteDocument_names
  retryAfter_nonneg := siteDocument_retryAfter

/-- The evidence that a call was served. -/
def servedEvidence (gate : SiteGate config) (call : Nat) : Option (Evidence config) :=
  match (gate.calls call).phase with
  | .served evidence => some evidence
  | _ => none

theorem phase_of_servedEvidence {gate : SiteGate config} {call : Nat} {evidence : Evidence config}
    (hserved : gate.servedEvidence call = some evidence) :
    (gate.calls call).phase = .served evidence := by
  unfold servedEvidence at hserved
  cases hphase : (gate.calls call).phase with
  | served found =>
      simp only [hphase, Option.some.injEq] at hserved
      rw [hserved]
  | _ => simp [hphase] at hserved

/-- The deployment's answer proves the pinned version. -/
theorem siteDocument_accepted :
    ∃ observed, pinnedGate.probe (.sent (.ok siteDocument)) = .ok observed := by
  have hsome : (pinnedGate.probe (.sent (.ok siteDocument))).toOption.isSome = true := by
    decide
  cases hprobe : pinnedGate.probe (.sent (.ok siteDocument)) with
  | error error =>
      rw [hprobe] at hsome
      cases hsome
  | ok observed => exact ⟨observed, rfl⟩

/-- A call probes and stores its evidence, which the next call is served. -/
theorem serves_current_after_store :
    ∃ gate, (system pinnedGate).ReachableUnder StoresCurrent gate ∧
      ∃ evidence, (gate.calls 1).phase = .served evidence ∧
        evidence.probe = (gate.calls 1).startedAt := by
  obtain ⟨observed, hobserved⟩ := siteDocument_accepted
  let missed := (fresh pinnedGate 0).start 0 "anonymous" .missed
  let probed := (missed.goto 0 (.probing 0)).goto 0 (.probed ⟨observed, 0⟩)
  have hfresh : (system pinnedGate).ReachableUnder StoresCurrent (fresh pinnedGate 0) :=
    .start ⟨0, rfl⟩
  have hmissed := hfresh.next (.requireCurrent 0 "anonymous") trivial
    (by rfl : _ = some missed)
  have hprobing := hmissed.next (.startProbe 0) trivial
    (by rfl : _ = some (missed.goto 0 (.probing 0)))
  have hend : (missed.goto 0 (.probing 0)).step (.endProbe 0 (.sent (.ok siteDocument))) =
      some probed := by
    show (match pinnedGate.probe (.sent (.ok siteDocument)) with
      | .ok observed => some ((missed.goto 0 (.probing 0)).goto 0 (.probed ⟨observed, 0⟩))
      | .error error => some ((missed.goto 0 (.probing 0)).goto 0 (.ended (.error error)))) = _
    rw [hobserved]
  have hprobed := hprobing.next (.endProbe 0 (.sent (.ok siteDocument))) trivial hend
  have hcurrent : probed.StoresCurrent (.store 0) := by
    intro evidence hphase
    have hphase : GatePhase.probed ⟨observed, 0⟩ = .probed evidence := hphase
    cases hphase
    rfl
  let stored : SiteGate pinnedGate := { probed.goto 0 (.ended (.ok observed)) with
    cache := Function.update probed.cache "anonymous" (some (⟨observed, 0⟩, 0)) }
  have hstored := hprobed.next (.store 0) hcurrent (by rfl : _ = some stored)
  have hfound : stored.cache "anonymous" = some (⟨observed, 0⟩, 0) :=
    Function.update_self "anonymous" _ probed.cache
  have hyoung : (0 : ℚ) - 0 ≤ 60 := by decide +kernel
  have hcheck : stored.check 1 "anonymous" = stored.start 1 "anonymous" (.served ⟨observed, 0⟩) :=
    check_of_fresh hfound hyoung 1
  have hserved := hstored.next (.requireCurrent 1 "anonymous") trivial
    (congrArg some hcheck : some (stored.check 1 "anonymous") = _)
  exact ⟨_, hserved, ⟨observed, 0⟩, rfl,
    serves_current_of_stores_current pinnedGate _ hserved 1 ⟨observed, 0⟩ rfl⟩

/-- The probe of a call starts, the gate is invalidated, and the call stores its evidence for
the next one. -/
def lateStore : List GateEvent :=
  [ .requireCurrent 0 "anonymous", .startProbe 0, .invalidate
  , .endProbe 0 (.sent (.ok siteDocument)), .store 0, .requireCurrent 1 "anonymous" ]

/-- The second call is served evidence whose probe had started before the gate was invalidated. -/
theorem late_store_is_served :
    ¬ ∀ config gate, (system config).Reachable gate → gate.ServesCurrent := by
  intro hclaim
  obtain ⟨gate, hreach, htest⟩ := (system pinnedGate).exists_reachable_of_run (fresh pinnedGate 0)
    ⟨0, rfl⟩ lateStore
    (fun gate => (gate.servedEvidence 1).any fun evidence =>
      decide (evidence.probe ≠ (gate.calls 1).startedAt)) (by decide +kernel)
  simp only [Option.any_eq_true, decide_eq_true_eq] at htest
  obtain ⟨evidence, hserved, hstale⟩ := htest
  exact hstale (hclaim pinnedGate gate hreach 1 evidence (phase_of_servedEvidence hserved))

end SiteGate

end DataSluice.Catalog
