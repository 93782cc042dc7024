import Mathlib.Data.List.Basic
import PushGateway.Types

/-!
# The normalised allowlist

The source normalises a submitted list in place, keeping what it has seen beside what it keeps.
Here that loop is related to `dedup`, whose result is the submitted list without its later
repetitions, and is normal already.
-/

namespace PushGateway

/-- One entry of the loop, over what is seen and what is kept. -/
def keepUnseen : List String × List String → String → List String × List String
  | (seen, deduped), did =>
      if seen.contains did then (seen, deduped) else (seen ++ [did], deduped ++ [did])

/-- `validate_and_normalize`, in place. -/
def WakeTriggerPolicy.normalizeInPlace (policy : WakeTriggerPolicy) :
    Except String Unit × WakeTriggerPolicy :=
  if maxAllowedTriggers < policy.allowedTriggers.length then
    (.error "allowedTriggers must list at most 32 DIDs", policy)
  else if ¬policy.allowedTriggers.all isBoundedDid then
    (.error "each allowedTriggers entry must be a DID of at most 512 bytes", policy)
  else
    let (_, deduped) := policy.allowedTriggers.foldl keepUnseen ([], [])
    (.ok (), { policy with allowedTriggers := deduped })

/-- What is seen and what is kept are the same all along the loop. -/
theorem foldl_keepUnseen (triggers : List String) :
    triggers.foldl keepUnseen ([], []) = (dedup triggers, dedup triggers) := by
  induction triggers using List.reverseRecOn with
  | nil => rfl
  | append_singleton triggers last induction =>
      rw [List.foldl_concat, induction, dedup_concat, keepUnseen]
      by_cases seen : last ∈ dedup triggers
      · simp [seen]
      · simp [seen]

/-- In place, a refused policy stays and an accepted one becomes its normal form. -/
theorem WakeTriggerPolicy.normalizeInPlace_eq (policy : WakeTriggerPolicy) :
    policy.normalizeInPlace =
      match policy.validateAndNormalize with
      | .error reason => (.error reason, policy)
      | .ok normalised => (.ok (), normalised) := by
  rw [normalizeInPlace, validateAndNormalize, foldl_keepUnseen]
  split
  · rfl
  · split <;> rfl

/-! ## The normal form -/

/-- The kept entries stand in the order of their first occurrences. -/
theorem pairwise_dedup (triggers : List String) :
    (dedup triggers).Pairwise fun left right => triggers.idxOf left < triggers.idxOf right := by
  induction triggers using List.reverseRecOn with
  | nil => exact List.Pairwise.nil
  | append_singleton triggers last induction =>
      have kept : ∀ did ∈ dedup triggers, (triggers ++ [last]).idxOf did = triggers.idxOf did :=
        fun did member => List.idxOf_append_of_mem ((mem_dedup triggers did).mp member)
      have earlier : (dedup triggers).Pairwise fun left right =>
          (triggers ++ [last]).idxOf left < (triggers ++ [last]).idxOf right := by
        refine induction.imp_of_mem fun left_kept right_kept before => ?_
        rwa [kept _ left_kept, kept _ right_kept]
      rw [dedup_concat]
      split
      · exact earlier
      · rename_i fresh
        refine List.pairwise_append.mpr ⟨earlier, List.pairwise_singleton _ _, ?_⟩
        intro did member other is_last
        rw [List.mem_singleton.mp is_last, kept did member,
          List.idxOf_append_of_notMem (mt (mem_dedup triggers last).mpr fresh)]
        have inside := List.idxOf_lt_length_of_mem ((mem_dedup triggers did).mp member)
        omega

theorem dedup_eq_self {triggers : List String} (once : triggers.Nodup) :
    dedup triggers = triggers := by
  induction triggers using List.reverseRecOn with
  | nil => rfl
  | append_singleton triggers last induction =>
      obtain ⟨earlier, -, apart⟩ := List.nodup_append.mp once
      have fresh : last ∉ dedup triggers := by
        rw [mem_dedup]
        exact fun member => apart last member last (List.mem_singleton_self last) rfl
      rw [dedup_concat, if_neg fresh, induction earlier]

/-- The members of a list, each once, in the order of their first occurrences. -/
structure FirstOccurrences (triggers kept : List String) : Prop where
  members : ∀ did, did ∈ kept ↔ did ∈ triggers
  once : kept.Nodup
  ordered : kept.Pairwise fun left right => triggers.idxOf left < triggers.idxOf right

theorem WakeTriggerPolicy.firstOccurrences {policy normalised : WakeTriggerPolicy}
    (accepted : policy.validateAndNormalize = .ok normalised) :
    FirstOccurrences policy.allowedTriggers normalised.allowedTriggers := by
  obtain ⟨-, -, once, members⟩ := validateAndNormalize_ok accepted
  refine ⟨members, once, ?_⟩
  rw [validateAndNormalize] at accepted
  split at accepted
  · cases accepted
  · split at accepted
    · cases accepted
    · cases accepted
      exact pairwise_dedup policy.allowedTriggers

/-- A normal form is its own. -/
theorem WakeTriggerPolicy.validateAndNormalize_idem {policy normalised : WakeTriggerPolicy}
    (accepted : policy.validateAndNormalize = .ok normalised) :
    normalised.validateAndNormalize = .ok normalised := by
  obtain ⟨short, bounded, once, -⟩ := validateAndNormalize_ok accepted
  rw [validateAndNormalize, if_neg (Nat.not_lt.mpr short),
    if_neg (not_not.mpr (List.all_eq_true.mpr bounded)), dedup_eq_self once]

end PushGateway
