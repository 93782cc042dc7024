import Mathlib.Data.List.Induction
import PushGateway.Foundation.AssocMap

/-!
# Iterating and collecting hash maps

A hash map is iterated in no particular order, and a map collected from a list keeps the last value
of each key.  What is collected from an iteration does not depend on its order as long as the keys
stay apart.
-/

/-- The order in which hash maps are iterated: each entry comes once. -/
structure HashOrder (κ ν : Type) where
  iter : AssocMap κ ν → List (κ × ν)
  perm : ∀ map, (iter map).Perm (map.entries.map fun entry => (entry.1, entry.2))

namespace HashOrder

variable {κ ν κ' ν' : Type}

/-- The order in which the entries are kept. -/
def kept : HashOrder κ ν where
  iter map := map.entries.map fun entry => (entry.1, entry.2)
  perm _ := .refl _

/-- The opposite order. -/
def reversed : HashOrder κ ν where
  iter map := (map.entries.map fun entry => (entry.1, entry.2)).reverse
  perm _ := List.reverse_perm _

variable (order : HashOrder κ ν)

theorem nodup_keys_iter (map : AssocMap κ ν) : ((order.iter map).map Prod.fst).Nodup := by
  have keys : ((map.entries.map fun entry => (entry.1, entry.2)).map Prod.fst) =
      map.entries.keys := by
    simp [List.keys, Function.comp_def]
  rw [((order.perm map).map Prod.fst).nodup_iff, keys]
  exact map.nodupKeys

variable [DecidableEq κ] [DecidableEq κ']

theorem mem_iter_iff (map : AssocMap κ ν) (key : κ) (value : ν) :
    (key, value) ∈ order.iter map ↔ map.lookup key = some value := by
  rw [(order.perm map).mem_iff, ← Option.mem_def, AList.mem_lookup_iff, List.mem_map]
  constructor
  · rintro ⟨⟨other, stored⟩, member, same⟩
    cases same
    exact member
  · exact fun member => ⟨⟨key, value⟩, member, rfl⟩

end HashOrder

namespace AssocMap

variable {κ ν κ' ν' : Type} [DecidableEq κ] [DecidableEq κ']

/-- Collect a map from a list: the last value of a key is kept. -/
def collect (pairs : List (κ × ν)) : AssocMap κ ν :=
  pairs.foldl (fun map pair => AList.insert pair.1 pair.2 map) ∅

theorem collect_concat (pairs : List (κ × ν)) (pair : κ × ν) :
    collect (pairs ++ [pair]) = AList.insert pair.1 pair.2 (collect pairs) := List.foldl_append

theorem lookup_collect_concat (pairs : List (κ × ν)) (pair : κ × ν) (key : κ) :
    (collect (pairs ++ [pair])).lookup key =
      if key = pair.1 then some pair.2 else (collect pairs).lookup key := by
  rw [collect_concat, lookup_insert]

/-- Where no key comes with two values, the collected map holds just what was listed. -/
theorem lookup_collect_iff {pairs : List (κ × ν)}
    (apart : ∀ key value value', (key, value) ∈ pairs → (key, value') ∈ pairs → value = value')
    (key : κ) (value : ν) : (collect pairs).lookup key = some value ↔ (key, value) ∈ pairs := by
  induction pairs using List.reverseRecOn with
  | nil => simp [collect]
  | append_singleton pairs pair induction =>
      have before := induction fun key value value' first second =>
        apart key value value' (List.mem_append_left _ first) (List.mem_append_left _ second)
      rw [lookup_collect_concat, List.mem_append, List.mem_singleton]
      by_cases same : key = pair.1
      · subst same
        rw [if_pos rfl]
        constructor
        · rintro ⟨⟩
          exact .inr rfl
        · intro listed
          have last : (pair.1, pair.2) ∈ pairs ++ [pair] := by simp
          have found : (pair.1, value) ∈ pairs ++ [pair] := by simpa using listed
          rw [apart pair.1 pair.2 value last found]
      · rw [if_neg same, before]
        constructor
        · exact .inl
        · rintro (member | rfl)
          · exact member
          · exact absurd rfl same

/-- What is collected from an iteration, where entries are translated or dropped and no two of
their keys get the same translation. -/
theorem lookup_collect_filterMap {order : HashOrder κ ν} {map : AssocMap κ ν}
    {translate : κ × ν → Option (κ' × ν')}
    (apart : ∀ entry entry' key value value', translate entry = some (key, value) →
      translate entry' = some (key, value') → entry.1 = entry'.1)
    (key : κ') (value : ν') :
    (collect ((order.iter map).filterMap translate)).lookup key = some value ↔
      ∃ other stored, map.lookup other = some stored ∧
        translate (other, stored) = some (key, value) := by
  have listed : ∀ value, (key, value) ∈ (order.iter map).filterMap translate ↔
      ∃ other stored, map.lookup other = some stored ∧
        translate (other, stored) = some (key, value) := by
    intro value
    rw [List.mem_filterMap]
    constructor
    · rintro ⟨⟨other, stored⟩, member, translated⟩
      exact ⟨other, stored, (order.mem_iter_iff map other stored).mp member, translated⟩
    · rintro ⟨other, stored, found, translated⟩
      exact ⟨(other, stored), (order.mem_iter_iff map other stored).mpr found, translated⟩
  rw [lookup_collect_iff, listed]
  intro key value value' first second
  obtain ⟨⟨other, stored⟩, member, translated⟩ := List.mem_filterMap.mp first
  obtain ⟨⟨other', stored'⟩, member', translated'⟩ := List.mem_filterMap.mp second
  have same : other = other' := apart _ _ _ _ _ translated translated'
  subst same
  have found := (order.mem_iter_iff map other stored).mp member
  have found' := (order.mem_iter_iff map other stored').mp member'
  rw [found] at found'
  cases found'
  rw [translated] at translated'
  cases translated'
  rfl

end AssocMap
