/-
# The refreshing credential provider

`RefreshingCredentialProvider` promises one refresh at a time. Its `resolve`
holds a thread-re-entrant lock for the whole refresh. Its `resolve_async` first
takes an `asyncio.Lock` from `_async_lock_for` and then the same re-entrant lock,
which it keeps across the `await` of the token request.

The provider is a shared record that any number of calls step through. The body
of `_async_lock_for` is not atomic across threads, so each of its reads and writes
of the shared fields is an event of its own. A re-entrant lock is its owner thread
with the calls inside it; its recursion count is their number. An `asyncio.Lock`
is an object number with the call that holds it, free when no call does.

A thread runs one `resolve` at a time, which `busy` records. Nothing else is
assumed of the scheduler: threads may run several event loops, and every step
of a call may be followed by a step of any other.
-/

import Mathlib.Algebra.Order.Ring.Rat
import Mathlib.Data.Finset.Basic
import Mathlib.Logic.Function.Basic
import DataSluice.Lib.Transition

namespace DataSluice.Runtime

open DataSluice.Lib

/-- The stored credential. A refreshing provider never drops its refresh token. -/
structure OAuthCredential where
  accessToken : String
  expiresAt : Option ℚ
  refreshToken : String
  deriving DecidableEq

/-- What the token endpoint answered; a missing refresh token keeps the old one. -/
structure TokenResponse where
  accessToken : String
  expiresAt : Option ℚ
  refreshToken : Option String

/-- What does not change after construction. -/
structure ProviderConfig where
  asyncTransport : Bool
  skewSeconds : ℚ

/-- Where a call stands. The phases up to `waiting` are `_async_lock_for` and the
wait for its lock; `outside` waits for the re-entrant lock; from `inside` to
`leaving` the call is in that lock's block. -/
inductive ResolvePhase
  | idle
  | entered
  | looked (found : Option Nat)
  | stale
  | stored
  | waiting
  | outside
  | inside
  | preparing
  | refreshing (token : String)
  | leaving
  | unlocking
  | ended
  deriving DecidableEq

/-- One `resolve` (no loop) or `resolve_async` call. -/
structure ResolveCall where
  thread : Nat
  loop : Option Nat
  lock : Option Nat
  phase : ResolvePhase
  deriving DecidableEq

namespace ResolvePhase

/-- Inside the block of the re-entrant lock. -/
def inBlock : ResolvePhase → Bool
  | .inside | .preparing | .refreshing _ | .leaving => true
  | _ => false

/-- Between the acquisition and the release of the `asyncio.Lock`. -/
def holdsLock : ResolvePhase → Bool
  | .outside | .unlocking => true
  | phase => phase.inBlock

/-- The phases only a `resolve_async` call goes through. -/
def asyncOnly : ResolvePhase → Bool
  | .entered | .looked _ | .stale | .stored | .waiting | .unlocking => true
  | _ => false

/-- Started and not finished. -/
def active : ResolvePhase → Bool
  | .idle | .ended => false
  | _ => true

/-- On the way to a token request, or waiting for its response. -/
def refreshes : ResolvePhase → Bool
  | .preparing | .refreshing _ => true
  | _ => false

end ResolvePhase

/-- The provider and the calls on it. -/
structure Provider where
  credential : OAuthCredential
  asyncLock : Option Nat
  asyncLockLoop : Option Nat
  /-- How many `asyncio.Lock` objects were created; the next one's number. -/
  lockCount : Nat
  lockHolder : Nat → Option Nat
  rlockOwner : Option Nat
  rlockEntries : Finset Nat
  /-- The `resolve` call each thread is running. -/
  busy : Nat → Option Nat
  calls : Nat → ResolveCall

/-- The scheduler's choices. -/
inductive ProviderEvent
  | resolve (call thread : Nat)
  | resolveAsync (call thread loop : Nat)
  | look (call : Nat)
  | compare (call : Nat)
  | storeLock (call : Nat)
  | storeLoop (call : Nat)
  | acquire (call : Nat)
  | abandon (call : Nat)
  | enter (call : Nat)
  | check (call : Nat) (now : ℚ)
  | refuse (call : Nat)
  | request (call : Nat)
  | respond (call : Nat) (response : Option TokenResponse)
  | exit (call : Nat)
  | release (call : Nat)

/-- The call an event belongs to. -/
def ProviderEvent.call : ProviderEvent → Nat
  | .resolve call _ | .resolveAsync call _ _ | .look call | .compare call | .storeLock call
  | .storeLoop call | .acquire call | .abandon call | .enter call | .check call _
  | .refuse call | .request call | .respond call _ | .exit call | .release call => call

namespace Provider

/-- Whether the stored credential is near its expiry. -/
def needsRefresh (config : ProviderConfig) (provider : Provider) (now : ℚ) : Bool :=
  match provider.credential.expiresAt with
  | none => false
  | some expiry => decide (expiry ≤ now + config.skewSeconds)

/-- The credential built from a response, over the one stored now. -/
def updatedCredential (provider : Provider) (response : TokenResponse) : OAuthCredential where
  accessToken := response.accessToken
  expiresAt := response.expiresAt
  refreshToken := response.refreshToken.getD provider.credential.refreshToken

/-- Put one call into a new phase. -/
def goto (provider : Provider) (call : Nat) (phase : ResolvePhase) : Provider :=
  { provider with
    calls := Function.update provider.calls call { provider.calls call with phase := phase } }

/-- Hand one call the lock it will wait for. -/
def handLock (provider : Provider) (call lock : Nat) (phase : ResolvePhase) : Provider :=
  { provider with
    calls := Function.update provider.calls call
      { provider.calls call with lock := some lock, phase := phase } }

/-- Start a call that has not run yet. -/
def start (provider : Provider) (call thread : Nat) (loop : Option Nat)
    (phase : ResolvePhase) : Provider :=
  { provider with
    calls := Function.update provider.calls call ⟨thread, loop, none, phase⟩ }

/-- End a call; a finished call waits for no lock. -/
def finish (provider : Provider) (call : Nat) : Provider :=
  { provider with
    calls := Function.update provider.calls call
      { provider.calls call with lock := none, phase := .ended } }

/-- Take the re-entrant lock on behalf of a call's thread. -/
def enterBlock (provider : Provider) (call : Nat) : Provider :=
  { provider.goto call .inside with
    rlockOwner := some (provider.calls call).thread
    rlockEntries := insert call provider.rlockEntries }

/-- Leave the block of the re-entrant lock; the last one out frees it. -/
def exitBlock (provider : Provider) (call : Nat) : Provider :=
  { provider with
    rlockOwner :=
      if provider.rlockEntries.erase call = ∅ then none else provider.rlockOwner
    rlockEntries := provider.rlockEntries.erase call }

/-- One scheduled step. -/
def step (config : ProviderConfig) (provider : Provider) : ProviderEvent → Option Provider
  | .resolve call thread =>
      if (provider.calls call).phase = .idle ∧ provider.busy thread = none then
        some { provider.start call thread none .outside with
          busy := Function.update provider.busy thread (some call) }
      else none
  | .resolveAsync call thread loop =>
      if (provider.calls call).phase = .idle then
        some (provider.start call thread (some loop) .entered)
      else none
  | .look call =>
      if (provider.calls call).phase = .entered then
        some (provider.goto call (.looked provider.asyncLock))
      else none
  | .compare call =>
      match (provider.calls call).phase with
      | .looked none => some (provider.goto call .stale)
      | .looked (some lock) =>
          if provider.asyncLockLoop = (provider.calls call).loop then
            some (provider.handLock call lock .waiting)
          else some (provider.goto call .stale)
      | _ => none
  | .storeLock call =>
      if (provider.calls call).phase = .stale then
        some { provider.handLock call provider.lockCount .stored with
          asyncLock := some provider.lockCount
          lockCount := provider.lockCount + 1 }
      else none
  | .storeLoop call =>
      if (provider.calls call).phase = .stored then
        some { provider.goto call .waiting with asyncLockLoop := (provider.calls call).loop }
      else none
  | .acquire call =>
      match (provider.calls call).phase, (provider.calls call).lock with
      | .waiting, some lock =>
          if provider.lockHolder lock = none then
            some { provider.goto call .outside with
              lockHolder := Function.update provider.lockHolder lock (some call) }
          else none
      | _, _ => none
  | .abandon call =>
      if (provider.calls call).phase = .waiting then some (provider.finish call) else none
  | .enter call =>
      if (provider.calls call).phase = .outside ∧
          (provider.rlockOwner = none ∨
            provider.rlockOwner = some (provider.calls call).thread) then
        some (provider.enterBlock call)
      else none
  | .check call now =>
      if (provider.calls call).phase = .inside then
        if needsRefresh config provider now = true ∧
            config.asyncTransport = (provider.calls call).loop.isSome then
          some (provider.goto call .preparing)
        else some (provider.goto call .leaving)
      else none
  | .refuse call =>
      if (provider.calls call).phase = .preparing then some (provider.goto call .leaving)
      else none
  | .request call =>
      if (provider.calls call).phase = .preparing then
        some (provider.goto call (.refreshing provider.credential.refreshToken))
      else none
  | .respond call response =>
      match (provider.calls call).phase, response with
      | .refreshing _, some answer =>
          some { provider.goto call .leaving with
            credential := provider.updatedCredential answer }
      | .refreshing _, none => some (provider.goto call .leaving)
      | _, _ => none
  | .exit call =>
      if (provider.calls call).phase = .leaving then
        if (provider.calls call).loop.isSome then
          some ((provider.exitBlock call).goto call .unlocking)
        else
          some { (provider.exitBlock call).finish call with
            busy := Function.update provider.busy (provider.calls call).thread none }
      else none
  | .release call =>
      match (provider.calls call).phase, (provider.calls call).lock with
      | .unlocking, some lock =>
          some { provider.finish call with
            lockHolder := Function.update provider.lockHolder lock none }
      | _, _ => none

/-- A provider no call has used yet. -/
def fresh (credential : OAuthCredential) : Provider where
  credential := credential
  asyncLock := none
  asyncLockLoop := none
  lockCount := 0
  lockHolder _ := none
  rlockOwner := none
  rlockEntries := ∅
  busy _ := none
  calls _ := ⟨0, none, none, .idle⟩

/-- The interleavings of calls on one provider. -/
def system (config : ProviderConfig) : System Provider ProviderEvent where
  init provider := ∃ credential, provider = fresh credential
  step := step config

end Provider

end DataSluice.Runtime
