/-
# Capability profiles

What a deployment is declared to support, and what evidence from probes makes of it. A
profile holds one state for each declared operation; the guard of an operation refuses it
in the states that have a remedy.

A field of the contracts that nothing here reads (the versions and fingerprints of a
profile, the tiers and request types of an operation, the provenance of evidence) is left
out.
-/

import Mathlib.Logic.Function.Basic

namespace DataSluice.Domain

/-- `OperationId` -/
structure OperationId where
  platform : String
  service : String
  method : String
  deriving DecidableEq

/-- `str(operation_id)` -/
def OperationId.text (id : OperationId) : String :=
  id.platform ++ "/" ++ id.service ++ "." ++ id.method

inductive MutationClass
  | read
  | create
  | update
  | delete
  | admin
  deriving DecidableEq

inductive CapabilityClass
  | core
  | optional
  | authenticated
  | admin
  deriving DecidableEq

/-- What the capability cache reads of an `OperationSpec`. -/
structure OperationSpec where
  id : OperationId
  mutationClass : MutationClass
  capabilityClass : CapabilityClass

inductive CredentialClassification
  | anonymous
  | authenticated
  | privileged
  deriving DecidableEq

inductive RoleClassification
  | anonymous
  | user
  | admin
  | unknown
  deriving DecidableEq

inductive ProbeResponseClass
  | success
  | unsupported
  | unauthorized
  | forbidden
  | unavailable
  | deploymentDisabled
  deriving DecidableEq

inductive EffectiveCapabilityState
  | core
  | optional
  | authenticated
  | admin
  | unsupported
  | unauthorized
  | forbidden
  | unavailable
  | deploymentDisabled
  deriving DecidableEq

/-- The value of the enumeration's member. -/
def EffectiveCapabilityState.value : EffectiveCapabilityState → String
  | .core => "core"
  | .optional => "optional"
  | .authenticated => "authenticated"
  | .admin => "admin"
  | .unsupported => "unsupported"
  | .unauthorized => "unauthorized"
  | .forbidden => "forbidden"
  | .unavailable => "unavailable"
  | .deploymentDisabled => "deployment-disabled"

/-- `EffectiveCapabilityState(capability_class.value)` -/
def CapabilityClass.state : CapabilityClass → EffectiveCapabilityState
  | .core => .core
  | .optional => .optional
  | .authenticated => .authenticated
  | .admin => .admin

/-- The state a response class other than success stands for. -/
def ProbeResponseClass.refusedState : ProbeResponseClass → Option EffectiveCapabilityState
  | .success => none
  | .unsupported => some .unsupported
  | .unauthorized => some .unauthorized
  | .forbidden => some .forbidden
  | .unavailable => some .unavailable
  | .deploymentDisabled => some .deploymentDisabled

/-- `ProbeEvidence` -/
structure ProbeEvidence where
  operationId : OperationId
  deploymentUrl : String
  credentialClassification : CredentialClassification
  roleClassification : RoleClassification
  observedResponseClass : ProbeResponseClass
  credentialScope : Option String
  credentialScope_ne : credentialScope ≠ some ""

/-- `DeclaredCapabilityProfile`: its operations, each under its own identifier. -/
structure DeclaredCapabilityProfile where
  operations : OperationId → Option OperationSpec
  operations_id : ∀ id, ∀ operation ∈ operations id, operation.id = id

/-- `EffectiveOperationCapability` -/
structure EffectiveOperationCapability where
  operation : OperationSpec
  state : EffectiveCapabilityState
  evidence : Option ProbeEvidence := none

/-- `EffectiveCapabilityProfile`: one capability for exactly the declared operations. -/
structure EffectiveCapabilityProfile where
  declaredProfile : DeclaredCapabilityProfile
  capabilities : OperationId → Option EffectiveOperationCapability
  covers : ∀ id, (capabilities id).isSome = (declaredProfile.operations id).isSome
  capabilities_id : ∀ id, ∀ capability ∈ capabilities id, capability.operation.id = id

/-- `_effective_state` -/
def effectiveState (operation : OperationSpec) (evidence : Option ProbeEvidence) :
    EffectiveCapabilityState :=
  match evidence with
  | none => .unavailable
  | some evidence =>
      match evidence.observedResponseClass.refusedState with
      | some state => state
      | none => operation.capabilityClass.state

namespace EffectiveCapabilityProfile

variable (profile : EffectiveCapabilityProfile)

/-- The remedies that `guard` names; the other states are allowed. -/
def remedies : EffectiveCapabilityState → Option String
  | .unsupported => some "Use a connector profile that declares the operation."
  | .unauthorized => some "Provide credentials with access to the operation."
  | .forbidden => some "Use credentials with the required role for the operation."
  | .unavailable => some "Retry after the target deployment is available."
  | .deploymentDisabled => some "Enable the capability on the target deployment."
  | .core | .optional | .authenticated | .admin => none

/-- `GuardDecision` -/
structure GuardDecision where
  operationId : OperationId
  state : EffectiveCapabilityState
  allowed : Bool
  remedy : Option String

/-- `guard` -/
def guard (id : OperationId) : GuardDecision :=
  match profile.capabilities id with
  | none => ⟨id, .unsupported, false, some "Use a connector profile that declares the operation."⟩
  | some capability =>
      ⟨id, capability.state, (remedies capability.state).isNone, remedies capability.state⟩

/-- The profile with another capability for one declared operation. -/
def withCapability (id : OperationId) (operation : OperationSpec)
    (hdeclared : operation ∈ profile.declaredProfile.operations id)
    (state : EffectiveCapabilityState) (evidence : Option ProbeEvidence) :
    EffectiveCapabilityProfile where
  declaredProfile := profile.declaredProfile
  capabilities := Function.update profile.capabilities id (some ⟨operation, state, evidence⟩)
  covers := by
    intro other
    by_cases hother : other = id
    · subst hother
      rw [Function.update_self, Option.mem_def.mp hdeclared]
      rfl
    · rw [Function.update_of_ne hother]
      exact profile.covers other
  capabilities_id := by
    intro other capability hcapability
    by_cases hother : other = id
    · subst hother
      rw [Function.update_self] at hcapability
      cases hcapability
      exact profile.declaredProfile.operations_id other operation hdeclared
    · rw [Function.update_of_ne hother] at hcapability
      exact profile.capabilities_id other capability hcapability

end EffectiveCapabilityProfile

/-- `_baseline_profile` of a declared profile: every operation in its declared state. -/
def DeclaredCapabilityProfile.baseline (profile : DeclaredCapabilityProfile) :
    EffectiveCapabilityProfile where
  declaredProfile := profile
  capabilities id := (profile.operations id).map fun operation =>
    { operation := operation, state := operation.capabilityClass.state }
  covers id := by simp
  capabilities_id := by
    intro id capability hcapability
    simp only [Option.mem_def, Option.map_eq_some_iff] at hcapability
    obtain ⟨operation, hoperation, rfl⟩ := hcapability
    exact profile.operations_id id operation hoperation

end DataSluice.Domain
