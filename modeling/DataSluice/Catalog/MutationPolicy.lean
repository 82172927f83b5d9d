/-
# Mutation policies

The policies that a caller attaches to a mutation, and what every mutating dispatch of the
uData clients asks of them. A confirmation is bound to one operation and to one target text.
-/

import DataSluice.Lib.Url
import DataSluice.Runtime.RetryLoop

namespace DataSluice.Catalog

open DataSluice.Lib.Url DataSluice.Runtime

/-- `ConfirmationPolicy`, with what its constructor checks. -/
structure ConfirmationPolicy where
  confirmed : Bool
  operation : Option String
  target : Option Text
  operation_ne : operation ≠ some ""
  target_ne : target ≠ some []

/-- `ConcurrencyPolicy`, with what its constructor checks. -/
structure ConcurrencyPolicy where
  token : Option String
  overwrite : Bool
  token_ne : token ≠ some ""

/-- `DryRunPolicy` -/
structure DryRunPolicy where
  requested : Bool

/-- `MutationPolicy` -/
structure MutationPolicy where
  destructive : Bool
  confirmation : Option ConfirmationPolicy
  concurrency : Option ConcurrencyPolicy
  idempotency : IdempotencyPolicy
  dryRun : DryRunPolicy

namespace Udata

/-- `_reject` of `_enforce_mutation_policy` -/
def rejectMutation (operation message safeAction : String) : Raised :=
  { errorClass := .forbidden
    message
    operation := some operation
    platform := some "udata"
    capabilityState := some "forbidden"
    safeAction := some safeAction }

/-- `_enforce_mutation_policy`: every mutation needs a confirmed policy that is bound to it. -/
def enforceMutationPolicy (operation : String) (targetId : Text) (policy : Option MutationPolicy)
    (destructive : Bool) : Except Raised Unit :=
  let reject := fun message safeAction => Except.error (rejectMutation operation message safeAction)
  match policy with
  | none =>
      reject "Dataset mutations require an explicit MutationPolicy."
        "Pass MutationPolicy(confirmation=ConfirmationPolicy(confirmed=True), ...)."
  | some policy =>
      match policy.confirmation.filter (·.confirmed) with
      | none =>
          reject "The dataset mutation is not explicitly confirmed."
            "Pass MutationPolicy(confirmation=ConfirmationPolicy(confirmed=True))."
      | some confirmation =>
          if confirmation.operation ≠ some operation ∨ confirmation.target ≠ some targetId then
            reject "Mutation confirmation must be bound to this operation and target."
              "Pass ConfirmationPolicy(confirmed=True, operation=..., target=...)."
          else if policy.dryRun.requested then
            reject "The stock uData API does not support dry-run previews."
              "Retry without requesting a dry-run preview."
          else
            match policy.concurrency.filter (·.overwrite) with
            | none =>
                reject ("The uData mutation requires explicit overwrite intent because no " ++
                    "conditional token is supported.")
                  "Pass ConcurrencyPolicy(overwrite=True)."
            | some concurrency =>
                if concurrency.token.isSome then
                  reject "The stock uData API has no conditional concurrency token support."
                    "Pass ConcurrencyPolicy(overwrite=True) for unconditional writes."
                else if policy.idempotency.allowsRetry then
                  reject "The stock uData API does not support retrying dataset mutations safely."
                    "Leave the idempotency policy at its non-retrying default."
                else if destructive && !policy.destructive then
                  reject ("The destructive dataset mutation must declare " ++
                      "MutationPolicy(destructive=True).")
                    "Pass MutationPolicy(destructive=True) for delete transitions."
                else if !destructive && policy.destructive then
                  reject "A standard dataset mutation cannot carry a destructive policy tier."
                    "Pass MutationPolicy(destructive=False, ...)."
                else .ok ()

/-- A policy that is accepted is confirmed for this operation and this target. -/
theorem confirmation_of_enforceMutationPolicy {operation : String} {targetId : Text}
    {policy : Option MutationPolicy} {destructive : Bool}
    (hok : enforceMutationPolicy operation targetId policy destructive = .ok ()) :
    ∃ accepted confirmation, policy = some accepted ∧
      accepted.confirmation = some confirmation ∧ confirmation.confirmed = true ∧
      confirmation.operation = some operation ∧ confirmation.target = some targetId := by
  cases policy with
  | none => simp [enforceMutationPolicy] at hok
  | some accepted =>
      rw [enforceMutationPolicy] at hok
      cases hconfirmed : accepted.confirmation.filter (·.confirmed) with
      | none => simp [hconfirmed] at hok
      | some confirmation =>
          simp only [hconfirmed] at hok
          split at hok
          · simp at hok
          · next hbound =>
              rw [not_or, not_not, not_not] at hbound
              obtain ⟨hconfirmation, hflag⟩ := Option.filter_eq_some_iff.mp hconfirmed
              exact ⟨accepted, confirmation, rfl, hconfirmation, hflag, hbound⟩

/-- A policy that is accepted lets nothing be sent again. -/
theorem allowsRetry_of_enforceMutationPolicy {operation : String} {targetId : Text}
    {policy : MutationPolicy} {destructive : Bool}
    (hok : enforceMutationPolicy operation targetId (some policy) destructive = .ok ()) :
    policy.idempotency.allowsRetry = false := by
  rw [enforceMutationPolicy] at hok
  cases hconfirmed : policy.confirmation.filter (·.confirmed) with
  | none => simp [hconfirmed] at hok
  | some confirmation =>
      simp only [hconfirmed] at hok
      cases hconcurrency : policy.concurrency.filter (·.overwrite) with
      | none =>
          simp only [hconcurrency] at hok
          split_ifs at hok
      | some concurrency =>
          simp only [hconcurrency] at hok
          split_ifs at hok with _ _ _ hretry
          all_goals simpa using hretry

/-- A policy that is accepted for two mutations is bound to the same operation and target in
both. -/
theorem eq_of_enforceMutationPolicy {operation other : String} {targetId otherId : Text}
    {policy : Option MutationPolicy} {destructive destructive' : Bool}
    (hfirst : enforceMutationPolicy operation targetId policy destructive = .ok ())
    (hsecond : enforceMutationPolicy other otherId policy destructive' = .ok ()) :
    operation = other ∧ targetId = otherId := by
  obtain ⟨accepted, confirmation, rfl, hconfirmation, -, hoperation, htarget⟩ :=
    confirmation_of_enforceMutationPolicy hfirst
  obtain ⟨accepted', confirmation', haccepted, hconfirmation', -, hoperation', htarget'⟩ :=
    confirmation_of_enforceMutationPolicy hsecond
  obtain rfl := Option.some.inj haccepted
  obtain rfl := Option.some.inj (hconfirmation.symm.trans hconfirmation')
  constructor
  · exact Option.some.inj (hoperation.symm.trans hoperation')
  · exact Option.some.inj (htarget.symm.trans htarget')

end Udata

end DataSluice.Catalog
