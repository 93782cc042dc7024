import Mathlib.Data.Finset.Card
import PushGateway.Basic
import PushGateway.Foundation.AssocMap

/-!
# Replay guards

The replay record keeps one guard for each issuer: a bounded map from document identifiers to
what was claimed under them.  The guard comes from a library, so it is a parameter here: its
operations, two observers (`capacity` and `retained`) and, as a separate class, the documented
behaviour that the record relies on.  `ReferenceGuard` is a guard with that behaviour.
-/

namespace PushGateway

/-- What a guard answers to a claim. -/
inductive ReplayVerdict (Response : Type) where
  | fresh
  | duplicate (priorResponse : Option Response)
  | conflict
  | unavailable
  deriving DecidableEq, Repr

/-- What a guard retains of one claimed identifier. -/
structure Retained (Digest Response : Type) where
  digest : Digest
  response : Option Response
  retainUntil : Option DateTime
  deriving DecidableEq, Repr

/-- `retain_until.is_none_or(|t| t > now)`. -/
def unexpired (retainUntil : Option DateTime) (now : DateTime) : Bool :=
  retainUntil.all fun instant => decide (now < instant)

/-- The entry is still retained at `now`. -/
def Retained.live {Digest Response : Type} (entry : Retained Digest Response) (now : DateTime) :
    Bool :=
  unexpired entry.retainUntil now

/-- The operations of a replay guard, and what can be observed of one. -/
class ReplayGuard (Guard : Type) (Id Digest Response : outParam Type) where
  new : Nat → Guard
  claim : Guard → Id → Digest → Option DateTime → DateTime → ReplayVerdict Response × Guard
  release : Guard → Id → Digest → Guard
  recordResponse : Guard → Id → Response → Guard
  purgeExpired : Guard → DateTime → Guard
  len : Guard → Nat
  /-- The number of entries above which a claim evicts one. -/
  capacity : Guard → Nat
  /-- The entry kept for an identifier. -/
  retained : Guard → Id → Option (Retained Digest Response)
  /-- A release leaves an entry which has its response. -/
  keepsAnswered : Bool

open ReplayGuard

/-- A release with this digest takes the entry away: the digest is its own, and it is in flight, or
the guard takes back answered entries too. -/
def Retained.releasedBy {Digest Response : Type} [DecidableEq Digest] (keepsAnswered : Bool)
    (entry : Retained Digest Response) (digest : Digest) : Bool :=
  decide (entry.digest = digest) && (entry.response.isNone || !keepsAnswered)

theorem Retained.releasedBy_iff {Digest Response : Type} [DecidableEq Digest] {keepsAnswered : Bool}
    {entry : Retained Digest Response} {digest : Digest} :
    entry.releasedBy keepsAnswered digest = true ↔
      entry.digest = digest ∧ (entry.response = none ∨ keepsAnswered = false) := by
  simp [releasedBy]

theorem Retained.releasedBy_of_ne {Digest Response : Type} [DecidableEq Digest]
    {entry : Retained Digest Response} {digest : Digest} (different : entry.digest ≠ digest)
    (keepsAnswered : Bool) : entry.releasedBy keepsAnswered digest = false := by
  simp [releasedBy, different]

/-- The documented behaviour of a replay guard.  A live identifier is never fresh again, an entry
goes away only by its release, by its expiry, or by a claim made at full capacity, and nothing is
ever said of which entry such a claim evicts.  Every guard releases what is in flight.  The guard of
the library keeps what is answered, and `keepsAnswered` leaves that open. -/
class LawfulReplayGuard (Guard : Type) {Id Digest Response : outParam Type}
    [ReplayGuard Guard Id Digest Response] : Prop where
  len_eq_card : ∀ guard : Guard, ∃ ids : Finset Id,
    len guard = ids.card ∧ ∀ id, id ∈ ids ↔ retained guard id ≠ none
  retained_new : ∀ size id, retained (new size : Guard) id = none
  capacity_new : ∀ size, capacity (new size : Guard) = size
  capacity_claim : ∀ (guard : Guard) id digest retainUntil now,
    capacity (claim guard id digest retainUntil now).2 = capacity guard
  capacity_release : ∀ (guard : Guard) id digest,
    capacity (release guard id digest) = capacity guard
  capacity_recordResponse : ∀ (guard : Guard) id response,
    capacity (recordResponse guard id response) = capacity guard
  capacity_purgeExpired : ∀ (guard : Guard) now, capacity (purgeExpired guard now) = capacity guard
  retained_purgeExpired : ∀ (guard : Guard) now id,
    retained (purgeExpired guard now) id = (retained guard id).filter fun entry => entry.live now
  release_same : ∀ (guard : Guard) id digest entry, retained guard id = some entry →
    entry.digest = digest → (entry.response = none ∨ keepsAnswered Guard = false) →
    retained (release guard id digest) id = none
  release_other : ∀ (guard : Guard) id digest other,
    (other = id → ∀ entry, retained guard id = some entry → entry.digest = digest →
      entry.response ≠ none ∧ keepsAnswered Guard = true) →
    retained (release guard id digest) other = retained guard other
  recordResponse_same : ∀ (guard : Guard) id response,
    retained (recordResponse guard id response) id =
      (retained guard id).map fun entry => { entry with response := some response }
  recordResponse_other : ∀ (guard : Guard) id response other, other ≠ id →
    retained (recordResponse guard id response) other = retained guard other
  claim_absent : ∀ (guard : Guard) id digest retainUntil now, retained guard id = none →
    (claim guard id digest retainUntil now).1 = .fresh
  claim_fresh : ∀ (guard : Guard) id digest retainUntil now,
    (claim guard id digest retainUntil now).1 = .fresh →
    retained (claim guard id digest retainUntil now).2 id = some ⟨digest, none, retainUntil⟩
  claim_duplicate : ∀ (guard : Guard) id digest retainUntil now entry,
    retained guard id = some entry → entry.live now → entry.digest = digest →
    (claim guard id digest retainUntil now).1 = .duplicate entry.response
  claim_conflict : ∀ (guard : Guard) id digest retainUntil now entry,
    retained guard id = some entry → entry.live now → entry.digest ≠ digest →
    (claim guard id digest retainUntil now).1 = .conflict
  claim_keeps_own : ∀ (guard : Guard) id digest retainUntil now entry,
    retained guard id = some entry → entry.live now →
    retained (claim guard id digest retainUntil now).2 id = some entry
  claim_invents_nothing : ∀ (guard : Guard) id digest retainUntil now other entry, other ≠ id →
    retained (claim guard id digest retainUntil now).2 other = some entry →
    retained guard other = some entry
  claim_keeps : ∀ (guard : Guard) id digest retainUntil now other entry, other ≠ id →
    retained guard other = some entry → entry.live now →
    ((∃ own, retained guard id = some own ∧ own.live now) ∨ len guard < capacity guard) →
    retained (claim guard id digest retainUntil now).2 other = some entry

section Lawful

variable {Guard Id Digest Response : Type} [ReplayGuard Guard Id Digest Response]
  [LawfulReplayGuard Guard]

/-- A guard whose identifiers are all kept by another, but for one, is at most one longer. -/
theorem len_le_succ_of_subset {guard guard' : Guard} (id : Id)
    (subset : ∀ other, other ≠ id → retained guard' other ≠ none → retained guard other ≠ none) :
    len guard' ≤ len guard + 1 := by
  obtain ⟨ids, card, mem⟩ := LawfulReplayGuard.len_eq_card guard
  obtain ⟨ids', card', mem'⟩ := LawfulReplayGuard.len_eq_card guard'
  classical
  have inside : ids' ⊆ insert id ids := by
    intro other member
    rw [Finset.mem_insert, mem]
    by_cases same : other = id
    · exact .inl same
    · exact .inr (subset other same ((mem' other).mp member))
  rw [card, card']
  exact (Finset.card_le_card inside).trans (Finset.card_insert_le id ids)

theorem len_le_of_subset {guard guard' : Guard}
    (subset : ∀ id, retained guard' id ≠ none → retained guard id ≠ none) :
    len guard' ≤ len guard := by
  obtain ⟨ids, card, mem⟩ := LawfulReplayGuard.len_eq_card guard
  obtain ⟨ids', card', mem'⟩ := LawfulReplayGuard.len_eq_card guard'
  rw [card, card']
  exact Finset.card_le_card fun id member => (mem id).mpr (subset id ((mem' id).mp member))

theorem len_eq_zero_iff (guard : Guard) : len guard = 0 ↔ ∀ id, retained guard id = none := by
  obtain ⟨ids, card, mem⟩ := LawfulReplayGuard.len_eq_card guard
  rw [card, Finset.card_eq_zero, Finset.eq_empty_iff_forall_notMem]
  simp [mem]

theorem len_new (size : Nat) : len (new size : Guard) = 0 :=
  (len_eq_zero_iff _).mpr (LawfulReplayGuard.retained_new size)

theorem len_purgeExpired_le (guard : Guard) (now : DateTime) :
    len (purgeExpired guard now) ≤ len guard := by
  apply len_le_of_subset
  intro id
  rw [LawfulReplayGuard.retained_purgeExpired]
  cases retained guard id <;> simp

theorem len_release_le (guard : Guard) (id : Id) (digest : Digest) :
    len (release guard id digest) ≤ len guard := by
  apply len_le_of_subset
  intro other present absent
  apply present
  rw [LawfulReplayGuard.release_other, absent]
  rintro rfl entry found
  simp [absent] at found

theorem len_recordResponse (guard : Guard) (id : Id) (response : Response) :
    len (recordResponse guard id response) = len guard := by
  have same : ∀ other, retained (recordResponse guard id response) other ≠ none ↔
      retained guard other ≠ none := by
    intro other
    by_cases same : other = id
    · rw [same, LawfulReplayGuard.recordResponse_same]
      simp
    · rw [LawfulReplayGuard.recordResponse_other guard id response other same]
  exact le_antisymm (len_le_of_subset fun other => (same other).mp)
    (len_le_of_subset fun other => (same other).mpr)

theorem len_claim_le (guard : Guard) (id : Id) (digest : Digest) (retainUntil : Option DateTime)
    (now : DateTime) : len (claim guard id digest retainUntil now).2 ≤ len guard + 1 := by
  apply len_le_succ_of_subset id
  intro other different present
  obtain ⟨entry, found⟩ := Option.ne_none_iff_exists'.mp present
  simp [LawfulReplayGuard.claim_invents_nothing guard id digest retainUntil now other entry
    different found]

/-- A claim on a guard which has room and holds live entries only enters the identifier if it is
absent, and changes nothing else. -/
theorem retained_claim_of_live {guard : Guard} {now : DateTime}
    (live : ∀ other entry, retained guard other = some entry → entry.live now)
    (room : len guard < capacity guard) (id : Id) (digest : Digest)
    (retainUntil : Option DateTime) (other : Id) [Decidable (other = id)] :
    retained (claim guard id digest retainUntil now).2 other =
      if other = id ∧ retained guard id = none then some ⟨digest, none, retainUntil⟩
      else retained guard other := by
  by_cases same : other = id
  · subst same
    cases found : retained guard other with
    | none =>
        have fresh := LawfulReplayGuard.claim_absent guard other digest retainUntil now found
        simpa using LawfulReplayGuard.claim_fresh guard other digest retainUntil now fresh
    | some entry =>
        simpa using LawfulReplayGuard.claim_keeps_own guard other digest retainUntil now entry found
          (live other entry found)
  · rw [if_neg fun both => same both.1]
    cases found : retained guard other with
    | some entry =>
        exact LawfulReplayGuard.claim_keeps guard id digest retainUntil now other entry same found
          (live other entry found) (.inr room)
    | none =>
        rw [Option.eq_none_iff_forall_ne_some]
        intro entry invented
        simp [LawfulReplayGuard.claim_invents_nothing guard id digest retainUntil now other entry
          same invented] at found

/-- A release takes away what it releases, and nothing else. -/
theorem retained_release [DecidableEq Id] [DecidableEq Digest] (guard : Guard) (id : Id)
    (digest : Digest) (other : Id) :
    retained (release guard id digest) other =
      if other = id then
        (retained guard other).filter fun entry => !entry.releasedBy (keepsAnswered Guard) digest
      else retained guard other := by
  by_cases same : other = id
  · subst same
    rw [if_pos rfl]
    cases found : retained guard other with
    | none =>
        rw [LawfulReplayGuard.release_other, found]
        · rfl
        · intro _ entry kept
          simp [found] at kept
    | some entry =>
        by_cases released : entry.releasedBy (keepsAnswered Guard) digest = true
        · obtain ⟨own, taken⟩ := Retained.releasedBy_iff.mp released
          rw [LawfulReplayGuard.release_same guard other digest entry found own taken]
          simp [Option.filter_some, released]
        · rw [LawfulReplayGuard.release_other, found]
          · simp [Option.filter_some, released]
          · intro _ other_entry kept own
            rw [found, Option.some.injEq] at kept
            subst kept
            simpa [own] using mt Retained.releasedBy_iff.mpr released
  · rw [if_neg same]
    exact LawfulReplayGuard.release_other guard id digest other fun equal => absurd equal same

end Lawful

/-! ## A guard with the documented behaviour -/

/-- A guard as an association list, newest entry first.  It keeps what is answered. -/
structure ReferenceGuard (Id Digest Response : Type) where
  bound : Nat
  entries : AssocMap Id (Retained Digest Response)

namespace ReferenceGuard

variable {Id Digest Response : Type}

/-- Make room for one more entry by dropping the oldest, if there is none. -/
def makeRoom (bound : Nat) (entries : AssocMap Id (Retained Digest Response)) :
    AssocMap Id (Retained Digest Response) :=
  if entries.size < bound then entries
  else ⟨entries.entries.dropLast, entries.nodupKeys.sublist (List.dropLast_sublist _)⟩

theorem makeRoom_of_lt {bound : Nat}
    {entries : AssocMap Id (Retained Digest Response)} (room : entries.size < bound) :
    makeRoom bound entries = entries := if_pos room

theorem mem_of_mem_makeRoom [DecidableEq Id] {bound : Nat}
    {entries : AssocMap Id (Retained Digest Response)} {id : Id}
    {entry : Retained Digest Response} (found : (makeRoom bound entries).lookup id = some entry) :
    entries.lookup id = some entry := by
  rw [makeRoom] at found
  split at found
  · exact found
  · rw [← Option.mem_def, AList.mem_lookup_iff] at found ⊢
    exact List.mem_of_mem_dropLast found

theorem lookup_live [DecidableEq Id] {entries : AssocMap Id (Retained Digest Response)} {id : Id}
    {now : DateTime} {entry : Retained Digest Response} (found : entries.lookup id = some entry)
    (live : entry.live now) :
    (entries.retain fun _ entry => entry.live now).lookup id = some entry := by
  rw [AssocMap.lookup_retain, found]
  simp [live]

variable [DecidableEq Id] [DecidableEq Digest]

instance : ReplayGuard (ReferenceGuard Id Digest Response) Id Digest Response where
  new bound := ⟨bound, ∅⟩
  claim guard id digest retainUntil now :=
    let kept := guard.entries.retain fun _ entry => entry.live now
    match kept.lookup id with
    | some entry =>
        (if entry.digest = digest then .duplicate entry.response else .conflict,
          { guard with entries := kept })
    | none =>
        (.fresh,
          { guard with
            entries := AList.insert id ⟨digest, none, retainUntil⟩ (makeRoom guard.bound kept) })
  release guard id digest :=
    { guard with entries := guard.entries.retain fun other entry =>
        !(decide (other = id) && entry.releasedBy true digest) }
  recordResponse guard id response :=
    { guard with entries := guard.entries.modify id fun entry =>
        { entry with response := some response } }
  purgeExpired guard now :=
    { guard with entries := guard.entries.retain fun _ entry => entry.live now }
  len guard := guard.entries.size
  capacity guard := guard.bound
  retained guard id := guard.entries.lookup id
  keepsAnswered := true

instance : LawfulReplayGuard (ReferenceGuard Id Digest Response) where
  len_eq_card guard := by
    refine ⟨guard.entries.keys.toFinset, ?_, ?_⟩
    · rw [List.toFinset_card_of_nodup guard.entries.keys_nodup]
      simp [ReplayGuard.len, AssocMap.size, AList.keys, List.keys]
    · intro id
      rw [List.mem_toFinset, ← AList.mem_keys, ← AList.lookup_isSome, Option.isSome_iff_ne_none]
      rfl
  retained_new _ _ := rfl
  capacity_new _ := rfl
  capacity_claim guard id digest retainUntil now := by
    simp only [ReplayGuard.claim, ReplayGuard.capacity]
    split <;> rfl
  capacity_release _ _ _ := rfl
  capacity_recordResponse _ _ _ := rfl
  capacity_purgeExpired _ _ := rfl
  retained_purgeExpired guard now id := AssocMap.lookup_retain _ guard.entries id
  release_same guard id digest entry found same inFlight := by
    simp only [ReplayGuard.retained] at found
    have released : entry.releasedBy true digest = true :=
      Retained.releasedBy_iff.mpr ⟨same, inFlight⟩
    simp [ReplayGuard.retained, ReplayGuard.release, AssocMap.lookup_retain, found, released]
  release_other guard id digest other kept := by
    simp only [ReplayGuard.retained, ReplayGuard.release, AssocMap.lookup_retain] at kept ⊢
    cases found : guard.entries.lookup other with
    | none => rfl
    | some entry =>
        have survives : other = id → entry.releasedBy true digest = false := by
          intro same
          rw [Bool.eq_false_iff]
          intro released
          obtain ⟨own, inFlight⟩ := Retained.releasedBy_iff.mp released
          obtain ⟨answered, _⟩ := kept same entry (same ▸ found) own
          simp [answered] at inFlight
        simpa [Option.filter_some] using survives
  recordResponse_same guard id response := by
    simp [ReplayGuard.retained, ReplayGuard.recordResponse, AssocMap.lookup_modify]
  recordResponse_other guard id response other different := by
    simp [ReplayGuard.retained, ReplayGuard.recordResponse, AssocMap.lookup_modify, different]
  claim_absent guard id digest retainUntil now absent := by
    have gone : (guard.entries.retain fun _ entry => entry.live now).lookup id = none := by
      simp only [ReplayGuard.retained] at absent
      rw [AssocMap.lookup_retain, absent]
      rfl
    simp [ReplayGuard.claim, gone]
  claim_fresh guard id digest retainUntil now fresh := by
    simp only [ReplayGuard.claim, ReplayGuard.retained] at fresh ⊢
    split at fresh
    · split at fresh <;> cases fresh
    · exact AList.lookup_insert _
  claim_duplicate guard id digest retainUntil now entry found live same := by
    simp [ReplayGuard.claim, lookup_live found live, same]
  claim_conflict guard id digest retainUntil now entry found live different := by
    simp [ReplayGuard.claim, lookup_live found live, different]
  claim_keeps_own guard id digest retainUntil now entry found live := by
    simp [ReplayGuard.claim, ReplayGuard.retained, lookup_live found live]
  claim_invents_nothing guard id digest retainUntil now other entry different found := by
    simp only [ReplayGuard.claim, ReplayGuard.retained] at found ⊢
    split at found
    · exact (Option.filter_eq_some_iff.mp (AssocMap.lookup_retain _ guard.entries other ▸ found)).1
    · rw [AList.lookup_insert_ne different] at found
      have kept := mem_of_mem_makeRoom found
      exact (Option.filter_eq_some_iff.mp (AssocMap.lookup_retain _ guard.entries other ▸ kept)).1
  claim_keeps guard id digest retainUntil now other entry different found live room := by
    simp only [ReplayGuard.claim, ReplayGuard.retained, ReplayGuard.len,
      ReplayGuard.capacity] at found room ⊢
    split
    · exact lookup_live found live
    · rename_i gone
      have below : guard.entries.size < guard.bound := by
        rcases room with ⟨own, present, unexpired⟩ | below
        · rw [lookup_live present unexpired] at gone
          cases gone
        · exact below
      have keptBelow : AssocMap.size (guard.entries.retain fun _ entry => entry.live now) <
          guard.bound :=
        (List.length_filter_le _ _).trans_lt below
      rw [AList.lookup_insert_ne different, makeRoom_of_lt keptBelow]
      exact lookup_live found live

end ReferenceGuard

end PushGateway
