import Mathlib.Algebra.Order.BigOperators.Group.List
import Mathlib.Algebra.Order.Ring.Nat
import Mathlib.Data.List.AList

/-!
# Finite maps with retention and counting

Mathlib's association lists carry the proof that their keys are distinct.  This file adds the
three operations a mutable hash map offers beyond them, filtering in place, updating one value
in place and counting the entries which satisfy a test, with the laws that read each operation
through `lookup` and through `count`.
-/

/-- A finite map from keys to values of one type. -/
abbrev AssocMap (κ ν : Type) := AList (fun _ : κ => ν)

namespace AssocMap

variable {κ ν : Type}

/-- The values of a map, one for each key. -/
def values (map : AssocMap κ ν) : List ν := map.entries.map Sigma.snd

/-- Keep the entries which satisfy a test. -/
def retain (keep : κ → ν → Bool) (map : AssocMap κ ν) : AssocMap κ ν where
  entries := map.entries.filter fun entry => keep entry.1 entry.2
  nodupKeys := map.nodupKeys.sublist List.filter_sublist

/-- Rewrite every value in place. -/
def mapValues (rewrite : κ → ν → ν) (map : AssocMap κ ν) : AssocMap κ ν where
  entries := map.entries.map fun entry => ⟨entry.1, rewrite entry.1 entry.2⟩
  nodupKeys := by
    have keys : (map.entries.map fun entry : (_ : κ) × ν =>
        (⟨entry.1, rewrite entry.1 entry.2⟩ : (_ : κ) × ν)).keys = map.entries.keys := by
      simp [List.keys, Function.comp_def]
    rw [List.NodupKeys, keys]
    exact map.nodupKeys

/-- The number of entries which satisfy a test. -/
def count (test : κ → ν → Bool) (map : AssocMap κ ν) : Nat :=
  map.entries.countP fun entry => test entry.1 entry.2

/-- The number of entries. -/
def size (map : AssocMap κ ν) : Nat := map.entries.length

theorem size_eq_count (map : AssocMap κ ν) : map.size = map.count fun _ _ => true := by
  simp [size, count]

variable [DecidableEq κ]

/-- Rewrite the value of one key in place, if the key is present. -/
def modify (key : κ) (rewrite : ν → ν) (map : AssocMap κ ν) : AssocMap κ ν :=
  map.mapValues fun other value => if other = key then rewrite value else value

theorem lookup_retain (keep : κ → ν → Bool) (map : AssocMap κ ν) (key : κ) :
    (map.retain keep).lookup key = (map.lookup key).filter (keep key) := by
  apply Option.ext
  intro value
  rw [← Option.mem_def, ← Option.mem_def, AList.mem_lookup_iff, Option.mem_filter_iff,
    AList.mem_lookup_iff]
  simp [retain]

theorem lookup_mapValues (rewrite : κ → ν → ν) (map : AssocMap κ ν) (key : κ) :
    (map.mapValues rewrite).lookup key = (map.lookup key).map (rewrite key) := by
  apply Option.ext
  intro value
  rw [← Option.mem_def, AList.mem_lookup_iff, Option.map_eq_some_iff]
  simp only [← Option.mem_def, AList.mem_lookup_iff, mapValues, List.mem_map]
  constructor
  · rintro ⟨⟨other, previous⟩, member, equal⟩
    cases equal
    exact ⟨previous, member, rfl⟩
  · rintro ⟨previous, member, rfl⟩
    exact ⟨⟨key, previous⟩, member, rfl⟩

theorem lookup_modify (key : κ) (rewrite : ν → ν) (map : AssocMap κ ν) (other : κ) :
    (map.modify key rewrite).lookup other =
      if other = key then (map.lookup other).map rewrite else map.lookup other := by
  rw [modify, lookup_mapValues]
  split <;> simp

theorem lookup_insert (key : κ) (value : ν) (map : AssocMap κ ν) (other : κ) :
    (AList.insert key value map).lookup other =
      if other = key then some value else map.lookup other := by
  split
  · rename_i same
    rw [same, AList.lookup_insert]
  · rename_i different
    exact AList.lookup_insert_ne different

theorem lookup_erase (key : κ) (map : AssocMap κ ν) (other : κ) :
    (AList.erase key map).lookup other = if other = key then none else map.lookup other := by
  split
  · rename_i same
    rw [same, AList.lookup_erase]
  · rename_i different
    exact AList.lookup_erase_ne different

theorem mem_values_iff (map : AssocMap κ ν) (value : ν) :
    value ∈ map.values ↔ ∃ key, map.lookup key = some value := by
  simp only [values, List.mem_map]
  constructor
  · rintro ⟨⟨key, _⟩, member, rfl⟩
    exact ⟨key, AList.mem_lookup_iff.mpr member⟩
  · rintro ⟨key, found⟩
    exact ⟨⟨key, value⟩, AList.mem_lookup_iff.mp found, rfl⟩

omit [DecidableEq κ] in
theorem values_retain_sublist (keep : κ → ν → Bool) (map : AssocMap κ ν) :
    (map.retain keep).values.Sublist map.values := by
  have kept : (map.retain keep).entries.Sublist map.entries := List.filter_sublist
  exact kept.map _

theorem values_insert {key : κ} (value : ν) {map : AssocMap κ ν}
    (fresh : map.lookup key = none) :
    values (AList.insert key value map) = value :: map.values := by
  rw [values, AList.entries_insert_of_notMem (AList.lookup_eq_none.mp fresh)]
  rfl

/-! ## Erasing and retaining -/

omit [DecidableEq κ] in
theorem retain_retain (map : AssocMap κ ν) (keep keep' : κ → ν → Bool) :
    (map.retain keep).retain keep' =
      map.retain fun key value => keep key value && keep' key value := by
  apply AList.ext
  simp [retain, List.filter_filter, Bool.and_comm]

omit [DecidableEq κ] in
theorem retain_congr {map : AssocMap κ ν} {keep keep' : κ → ν → Bool}
    (same : ∀ entry ∈ map.entries, keep entry.1 entry.2 = keep' entry.1 entry.2) :
    map.retain keep = map.retain keep' := by
  apply AList.ext
  exact List.filter_congr same

theorem retain_eq_self {map : AssocMap κ ν} {keep : κ → ν → Bool}
    (all : ∀ key value, map.lookup key = some value → keep key value = true) :
    map.retain keep = map :=
  AList.ext (List.filter_eq_self.mpr fun entry member =>
    all entry.1 entry.2 (AList.mem_lookup_iff.mpr member))

/-- Erasing a key retains the other keys. -/
theorem erase_eq_retain (key : κ) (map : AssocMap κ ν) :
    AList.erase key map = map.retain fun other _ => decide (other ≠ key) := by
  apply AList.ext
  change map.entries.kerase key = map.entries.filter fun entry => decide (entry.1 ≠ key)
  have nodup := map.nodupKeys
  generalize map.entries = entries at nodup ⊢
  induction entries with
  | nil => rfl
  | cons entry entries induction =>
      obtain ⟨other, value⟩ := entry
      rw [List.nodupKeys_cons] at nodup
      by_cases same : other = key
      · subst same
        have none_left : ∀ entry ∈ entries, decide (entry.1 ≠ other) = true := by
          intro entry member
          rw [decide_eq_true_eq]
          intro equal
          have listed : entry.1 ∈ entries.keys := List.mem_map.mpr ⟨entry, member, rfl⟩
          exact nodup.1 (equal ▸ listed)
        simpa using (List.filter_eq_self.mpr none_left).symm
      · rw [List.kerase_cons_ne (Ne.symm same), induction nodup.2]
        simp [same]

/-- Erasing keys one after another retains the keys which are not among them. -/
theorem foldl_erase_eq_retain (keys : List κ) (map : AssocMap κ ν) :
    keys.foldl (fun map key => AList.erase key map) map =
      map.retain fun other _ => decide (other ∉ keys) := by
  induction keys generalizing map with
  | nil =>
      apply AList.ext
      simp [retain]
  | cons key keys induction =>
      rw [List.foldl_cons, induction, erase_eq_retain, retain_retain]
      congr 1
      funext other _
      simp

/-- Erasing the keys a test retains keeps the entries which fail it. -/
theorem foldl_erase_keys_retain (test : κ → ν → Bool) (map : AssocMap κ ν) :
    (map.retain test).keys.foldl (fun map key => AList.erase key map) map =
      map.retain fun key value => !test key value := by
  rw [foldl_erase_eq_retain]
  apply retain_congr
  rintro ⟨key, value⟩ member
  have found : map.lookup key = some value := AList.mem_lookup_iff.mpr member
  have listed : key ∈ (map.retain test).keys ↔ test key value = true := by
    rw [← AList.mem_keys, ← AList.lookup_isSome, lookup_retain, found]
    simp [Option.filter_some]
  simp [listed]

/-! ## Counting -/

/-- A present entry can be brought to the front, ahead of the rest of the map. -/
theorem entries_perm_erase {key : κ} {value : ν} {map : AssocMap κ ν}
    (found : map.lookup key = some value) :
    map.entries.Perm (⟨key, value⟩ :: (AList.erase key map).entries) := by
  have fresh : key ∉ AList.erase key map := by simp [AList.mem_erase]
  have restored : AList.insert key value (AList.erase key map) = AList.insert key value map := by
    apply AList.ext
    rw [AList.entries_insert_of_notMem fresh, AList.entries_insert]
    rfl
  rw [← AList.entries_insert_of_notMem (b := value) fresh, restored]
  apply (List.perm_ext_iff_of_nodup map.nodupKeys.nodup
    (AList.insert key value map).nodupKeys.nodup).mpr
  rintro ⟨other, stored⟩
  rw [← AList.mem_lookup_iff, ← AList.mem_lookup_iff, Option.mem_def, Option.mem_def,
    lookup_insert]
  split
  · rename_i same
    rw [same, found]
  · rfl

theorem count_insert {key : κ} (value : ν) {map : AssocMap κ ν} (test : κ → ν → Bool)
    (fresh : map.lookup key = none) :
    count test (AList.insert key value map) = map.count test + if test key value then 1 else 0 := by
  rw [count, AList.entries_insert_of_notMem (AList.lookup_eq_none.mp fresh), List.countP_cons]
  rfl

theorem count_erase {key : κ} {value : ν} {map : AssocMap κ ν} (test : κ → ν → Bool)
    (found : map.lookup key = some value) :
    map.count test = count test (AList.erase key map) + if test key value then 1 else 0 := by
  rw [count, (entries_perm_erase found).countP_eq, List.countP_cons]
  rfl

theorem erase_of_absent {key : κ} {map : AssocMap κ ν} (absent : map.lookup key = none) :
    AList.erase key map = map := by
  apply AList.ext
  exact List.kerase_of_notMem_keys (AList.lookup_eq_none.mp absent)

theorem count_erase_le (key : κ) (map : AssocMap κ ν) (test : κ → ν → Bool) :
    count test (AList.erase key map) ≤ map.count test := by
  cases found : map.lookup key with
  | none => rw [erase_of_absent found]
  | some value =>
      rw [count_erase test found]
      omega

omit [DecidableEq κ] in
theorem count_retain_le (keep : κ → ν → Bool) (map : AssocMap κ ν) (test : κ → ν → Bool) :
    (map.retain keep).count test ≤ map.count test :=
  List.filter_sublist.countP_le

omit [DecidableEq κ] in
theorem count_mapValues {rewrite : κ → ν → ν} {test : κ → ν → Bool} (map : AssocMap κ ν)
    (stable : ∀ key value, test key (rewrite key value) = test key value) :
    (map.mapValues rewrite).count test = map.count test := by
  simp [count, mapValues, List.countP_map, Function.comp_def, stable]

theorem count_mono {map : AssocMap κ ν} {weak strong : κ → ν → Bool}
    (implies : ∀ key value, map.lookup key = some value →
      strong key value = true → weak key value = true) :
    map.count strong ≤ map.count weak := by
  apply List.countP_mono_left
  intro entry member passes
  exact implies entry.1 entry.2 (AList.mem_lookup_iff.mpr member) passes

/-- A duplicate-free list of exactly the keys whose values pass a test is as long as the
count. -/
theorem length_eq_count {map : AssocMap κ ν} {test : κ → ν → Bool} {keys : List κ}
    (nodup : keys.Nodup)
    (exact : ∀ key, key ∈ keys ↔ ∃ value, map.lookup key = some value ∧ test key value = true) :
    keys.length = map.count test := by
  have kept : (map.retain test).keys.Perm keys := by
    apply (List.perm_ext_iff_of_nodup (map.retain test).keys_nodup nodup).mpr
    intro key
    rw [exact, ← AList.mem_keys, ← AList.lookup_isSome, lookup_retain, Option.isSome_iff_exists]
    simp [Option.filter_eq_some_iff]
  rw [← kept.length_eq]
  simp [AList.keys, List.keys, retain, count, List.countP_eq_length_filter]

/-! ## The number of entries -/

theorem size_insert {key : κ} (value : ν) {map : AssocMap κ ν} (fresh : map.lookup key = none) :
    size (AList.insert key value map) = map.size + 1 := by
  rw [size_eq_count, size_eq_count, count_insert value _ fresh, if_pos rfl]

theorem size_erase {key : κ} {value : ν} {map : AssocMap κ ν}
    (found : map.lookup key = some value) : map.size = size (AList.erase key map) + 1 := by
  rw [size_eq_count, size_eq_count, count_erase _ found, if_pos rfl]

theorem size_modify (key : κ) (rewrite : ν → ν) (map : AssocMap κ ν) :
    (map.modify key rewrite).size = map.size := by
  simp [size, modify, mapValues]

omit [DecidableEq κ] in
/-- Every entry is either retained or dropped. -/
theorem size_retain_add (keep : κ → ν → Bool) (map : AssocMap κ ν) :
    (map.retain keep).size + (map.retain fun key value => !keep key value).size = map.size :=
  (List.length_eq_length_filter_add fun entry : Sigma fun _ : κ => ν =>
    keep entry.1 entry.2).symm

/-! ## Summing a measure of the values -/

/-- The sum of a measure over the values of a map. -/
def total (measure : ν → Nat) (map : AssocMap κ ν) : Nat := (map.values.map measure).sum

omit [DecidableEq κ] in
theorem total_retain {keep : κ → ν → Bool} {measure : ν → Nat} (map : AssocMap κ ν)
    (dropped : ∀ key value, keep key value = false → measure value = 0) :
    (map.retain keep).total measure = map.total measure := by
  simp only [total, values, retain, List.map_map]
  induction map.entries with
  | nil => rfl
  | cons entry entries induction =>
      cases kept : keep entry.1 entry.2 with
      | true => simp [kept, induction]
      | false => simp [kept, induction, dropped entry.1 entry.2 kept]

theorem total_insert {key : κ} (value : ν) {map : AssocMap κ ν} (measure : ν → Nat)
    (fresh : map.lookup key = none) :
    total measure (AList.insert key value map) = measure value + map.total measure := by
  rw [total, values_insert value fresh]
  simp [total]

theorem total_erase {key : κ} {value : ν} {map : AssocMap κ ν} (measure : ν → Nat)
    (found : map.lookup key = some value) :
    map.total measure = measure value + total measure (AList.erase key map) := by
  rw [total, values, (((entries_perm_erase found).map Sigma.snd).map measure).sum_nat]
  simp [total, values]

omit [DecidableEq κ] in
theorem total_congr {map : AssocMap κ ν} {measure measure' : ν → Nat}
    (same : ∀ value ∈ map.values, measure value = measure' value) :
    map.total measure = map.total measure' := by
  rw [total, total, List.map_congr_left same]

omit [DecidableEq κ] in
theorem total_le_total {map : AssocMap κ ν} {measure measure' : ν → Nat}
    (below : ∀ value ∈ map.values, measure value ≤ measure' value) :
    map.total measure ≤ map.total measure' := by
  rw [total, total]
  exact List.sum_le_sum below

end AssocMap
