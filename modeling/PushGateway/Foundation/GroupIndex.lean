import PushGateway.Foundation.AssocMap

/-!
# Group indexes

The values of a map fall into groups, and an index lists the keys of each group so that a group
can be counted without a scan.  The index is kept by separate operations as keys come and go.
This file says when an index is exact, and that inserting, erasing and rebuilding keep it so.
-/

/-- For each group, the keys which fall into it. -/
abbrev GroupIndex (γ κ : Type) := AssocMap γ (List κ)

namespace GroupIndex

variable {γ κ ν : Type} [DecidableEq γ]

/-- The keys listed under a group. -/
def bucket (index : GroupIndex γ κ) (name : γ) : List κ := (AList.lookup name index).getD []

/-- List a key under a group, at the end of a bucket which is created when missing. -/
def push (name : γ) (key : κ) (index : GroupIndex γ κ) : GroupIndex γ κ :=
  AList.insert name (index.bucket name ++ [key]) index

/-- Take a key from its bucket, and the bucket away once it is empty. -/
def drop [DecidableEq κ] (name : γ) (key : κ) (index : GroupIndex γ κ) : GroupIndex γ κ :=
  match AList.lookup name index with
  | none => index
  | some keys =>
      let keys := keys.filter fun other => other ≠ key
      if keys.isEmpty then AList.erase name index else AssocMap.modify name (fun _ => keys) index

/-- List every key of a map, from no index at all. -/
def rebuild (group : ν → γ) (map : AssocMap κ ν) : GroupIndex γ κ :=
  map.entries.foldl (fun index entry => index.push (group entry.2) entry.1) ∅

theorem bucket_push (name : γ) (key : κ) (index : GroupIndex γ κ) (other : γ) :
    (index.push name key).bucket other =
      if other = name then index.bucket name ++ [key] else index.bucket other := by
  rw [bucket, push, AssocMap.lookup_insert]
  split <;> rfl

theorem inhabited_push {index : GroupIndex γ κ}
    (inhabited : ∀ name, AList.lookup name index ≠ some []) (name : γ) (key : κ) (other : γ) :
    AList.lookup other (index.push name key) ≠ some [] := by
  rw [push, AssocMap.lookup_insert]
  split
  · simp
  · exact inhabited other

/-- Each group has the same keys in both indexes, in some order. -/
def Alike (index index' : GroupIndex γ κ) : Prop :=
  ∀ name : γ, Option.Rel (fun keys keys' : List κ => keys.Perm keys')
    (AList.lookup name index) (AList.lookup name index')

theorem Alike.bucket_perm {index index' : GroupIndex γ κ} (alike : Alike index index')
    (name : γ) : (index.bucket name).Perm (index'.bucket name) := by
  have here := alike name
  rw [bucket, bucket]
  generalize AList.lookup name index = keys at here ⊢
  generalize AList.lookup name index' = keys' at here ⊢
  cases here with
  | some perm => exact perm
  | none => exact List.Perm.refl _

theorem Alike.push {index index' : GroupIndex γ κ} (alike : Alike index index') (name : γ)
    (key : κ) : Alike (index.push name key) (index'.push name key) := by
  intro other
  rw [GroupIndex.push, GroupIndex.push, AssocMap.lookup_insert, AssocMap.lookup_insert]
  split
  · exact .some ((alike.bucket_perm name).append_right [key])
  · exact alike other

/-- Pushing entries one after another appends to each bucket the keys which belong to it. -/
theorem bucket_foldl_push (group : ν → γ) (entries : List ((_ : κ) × ν)) (index : GroupIndex γ κ)
    (name : γ) :
    (entries.foldl (fun index entry => index.push (group entry.2) entry.1) index).bucket name =
      index.bucket name ++
        (entries.filter fun entry => group entry.2 = name).map Sigma.fst := by
  induction entries generalizing index with
  | nil => simp
  | cons entry entries induction =>
      rw [List.foldl_cons, induction, bucket_push]
      by_cases same : group entry.2 = name
      · simp [same]
      · simp [same, Ne.symm same]

variable [DecidableEq κ]

theorem bucket_drop (name : γ) (key : κ) (index : GroupIndex γ κ) (other : γ) :
    (index.drop name key).bucket other =
      if other = name then (index.bucket name).filter fun listed => listed ≠ key
      else index.bucket other := by
  rw [drop]
  cases found : AList.lookup name index with
  | none =>
      by_cases same : other = name
      · subst same
        simp [bucket, found]
      · simp [same]
  | some keys =>
      dsimp only
      split <;> rename_i left
      · rw [List.isEmpty_iff] at left
        simp only [bucket, AssocMap.lookup_erase, found, Option.getD_some, left]
        split <;> rfl
      · simp only [bucket, AssocMap.lookup_modify, found, Option.getD_some]
        split
        · rename_i same
          rw [same, found]
          rfl
        · rfl

/-! ## Exact indexes -/

/-- Every bucket lists the keys of its group and no others, each once, and no bucket is empty. -/
structure Exact (group : ν → γ) (map : AssocMap κ ν) (index : GroupIndex γ κ) : Prop where
  listed : ∀ name key, key ∈ index.bucket name ↔ (map.lookup key).map group = some name
  once : ∀ name, (index.bucket name).Nodup
  inhabited : ∀ name, AList.lookup name index ≠ some []

/-- The length of a bucket is what a scan of the map would count. -/
theorem Exact.length_bucket {group : ν → γ} {map : AssocMap κ ν} {index : GroupIndex γ κ}
    (exact_index : Exact group map index) (name : γ) :
    (index.bucket name).length = map.count fun _ value => decide (group value = name) := by
  apply AssocMap.length_eq_count (exact_index.once name)
  intro key
  rw [exact_index.listed, Option.map_eq_some_iff]
  simp

/-- What is listed under a group is live and belongs to it. -/
theorem Exact.lookup_eq_bucket {group : ν → γ} {map : AssocMap κ ν} {index : GroupIndex γ κ}
    (exact_index : Exact group map index) {name : γ} {keys : List κ}
    (found : AList.lookup name index = some keys) :
    index.bucket name = keys ∧ keys ≠ [] := by
  refine ⟨by rw [bucket, found]; rfl, ?_⟩
  rintro rfl
  exact exact_index.inhabited name found

theorem Exact.empty (group : ν → γ) : Exact (κ := κ) group ∅ ∅ where
  listed := by simp [bucket]
  once := by simp [bucket]
  inhabited := by simp

theorem Exact.insert {group : ν → γ} {map : AssocMap κ ν} {index : GroupIndex γ κ}
    (exact_index : Exact group map index) {key : κ} (value : ν) (fresh : map.lookup key = none) :
    Exact group (AList.insert key value map) (index.push (group value) key) where
  listed name other := by
    rw [bucket_push, AssocMap.lookup_insert]
    have not_listed : ∀ name, key ∉ index.bucket name := by
      simp [exact_index.listed, fresh]
    by_cases same_key : other = key
    · subst same_key
      by_cases same_group : name = group value
      · simp [same_group]
      · simp [same_group, not_listed, Ne.symm same_group]
    · simp only [same_key, if_false]
      split
      · rename_i same_group
        simp [same_key, same_group, exact_index.listed]
      · exact exact_index.listed name other
  once name := by
    rw [bucket_push]
    split
    · have not_listed : key ∉ index.bucket (group value) := by
        simp [exact_index.listed, fresh]
      rw [← List.concat_eq_append]
      exact (exact_index.once _).concat not_listed
    · exact exact_index.once name
  inhabited := inhabited_push exact_index.inhabited _ _

theorem Exact.erase {group : ν → γ} {map : AssocMap κ ν} {index : GroupIndex γ κ}
    (exact_index : Exact group map index) {key : κ} {value : ν}
    (found : map.lookup key = some value) :
    Exact group (AList.erase key map) (index.drop (group value) key) where
  listed name other := by
    rw [bucket_drop, AssocMap.lookup_erase]
    by_cases same_key : other = key
    · subst same_key
      split
      · simp
      · rename_i different
        simp [exact_index.listed, found, Ne.symm different]
    · simp only [same_key, if_false]
      split
      · rename_i same_group
        simp [same_key, same_group, exact_index.listed]
      · exact exact_index.listed name other
  once name := by
    rw [bucket_drop]
    split
    · exact (exact_index.once _).filter _
    · exact exact_index.once name
  inhabited name := by
    rw [drop]
    cases present : AList.lookup (group value) index with
    | none => exact exact_index.inhabited name
    | some keys =>
        dsimp only
        split <;> rename_i left
        · rw [AssocMap.lookup_erase]
          split
          · simp
          · exact exact_index.inhabited name
        · rw [AssocMap.lookup_modify]
          split
          · rename_i same
            rw [same, present]
            simpa [List.isEmpty_iff] using left
          · exact exact_index.inhabited name

/-- An index stays exact for a map whose values fall into the same groups as before. -/
theorem Exact.of_same_groups {group : ν → γ} {map map' : AssocMap κ ν} {index : GroupIndex γ κ}
    (exact_index : Exact group map index)
    (same : ∀ key, (map'.lookup key).map group = (map.lookup key).map group) :
    Exact group map' index where
  listed name key := by rw [exact_index.listed, same]
  once := exact_index.once
  inhabited := exact_index.inhabited

/-! ## Rebuilding -/

theorem Exact.rebuild (group : ν → γ) (map : AssocMap κ ν) :
    Exact group map (rebuild group map) where
  listed name key := by
    rw [GroupIndex.rebuild, bucket_foldl_push, Option.map_eq_some_iff]
    simp only [bucket, AList.lookup_empty, Option.getD_none, List.nil_append, List.mem_map,
      List.mem_filter, decide_eq_true_eq]
    constructor
    · rintro ⟨⟨_, value⟩, ⟨member, belongs⟩, rfl⟩
      exact ⟨value, AList.mem_lookup_iff.mpr member, belongs⟩
    · rintro ⟨value, found, belongs⟩
      exact ⟨⟨key, value⟩, ⟨AList.mem_lookup_iff.mp found, belongs⟩, rfl⟩
  once name := by
    rw [GroupIndex.rebuild, bucket_foldl_push]
    simp only [bucket, AList.lookup_empty, Option.getD_none, List.nil_append]
    exact List.Nodup.sublist (List.filter_sublist.map _) map.nodupKeys
  inhabited := by
    rw [GroupIndex.rebuild]
    have start : ∀ name, AList.lookup name (∅ : GroupIndex γ κ) ≠ some [] := by simp
    generalize (∅ : GroupIndex γ κ) = index at start
    induction map.entries generalizing index with
    | nil => exact start
    | cons entry entries induction => exact induction _ (inhabited_push start _ _)

/-! ## Indexes which differ in order only -/

/-- Two exact indexes of one map differ in order only. -/
theorem Exact.alike {group : ν → γ} {map : AssocMap κ ν} {index index' : GroupIndex γ κ}
    (exact_index : Exact group map index) (exact_index' : Exact group map index') :
    Alike index index' := by
  intro name
  have perm : (index.bucket name).Perm (index'.bucket name) :=
    (List.perm_ext_iff_of_nodup (exact_index.once name) (exact_index'.once name)).mpr fun key => by
      rw [exact_index.listed, exact_index'.listed]
  cases found : AList.lookup name index with
  | none =>
      cases found' : AList.lookup name index' with
      | none => exact .none
      | some keys' =>
          obtain ⟨listed, inhabited⟩ := exact_index'.lookup_eq_bucket found'
          rw [bucket, found, listed] at perm
          exact absurd perm.symm.eq_nil inhabited
  | some keys =>
      obtain ⟨listed, inhabited⟩ := exact_index.lookup_eq_bucket found
      cases found' : AList.lookup name index' with
      | none =>
          rw [listed, bucket, found'] at perm
          exact absurd perm.eq_nil inhabited
      | some keys' =>
          rw [listed, (exact_index'.lookup_eq_bucket found').1] at perm
          exact .some perm

theorem Alike.drop {index index' : GroupIndex γ κ} (alike : Alike index index') (name : γ)
    (key : κ) : Alike (index.drop name key) (index'.drop name key) := by
  intro other
  rw [GroupIndex.drop, GroupIndex.drop]
  have here := alike name
  cases found : AList.lookup name index with
  | none =>
      cases found' : AList.lookup name index' with
      | none => exact alike other
      | some keys' =>
          rw [found, found'] at here
          cases here
  | some keys =>
      cases found' : AList.lookup name index' with
      | none =>
          rw [found, found'] at here
          cases here
      | some keys' =>
          rw [found, found'] at here
          obtain ⟨perm⟩ := here
          have filtered := perm.filter fun other => other ≠ key
          have empty : (keys.filter fun other => other ≠ key).isEmpty =
              (keys'.filter fun other => other ≠ key).isEmpty := by
            rw [Bool.eq_iff_iff, List.isEmpty_iff, List.isEmpty_iff]
            exact ⟨fun nil => (nil ▸ filtered).symm.eq_nil, fun nil => (nil ▸ filtered).eq_nil⟩
          dsimp only
          rw [empty]
          split
          · rw [AssocMap.lookup_erase, AssocMap.lookup_erase]
            split
            · exact .none
            · exact alike other
          · rw [AssocMap.lookup_modify, AssocMap.lookup_modify]
            split
            · rename_i same
              rw [same, found, found']
              exact .some filtered
            · exact alike other

end GroupIndex
