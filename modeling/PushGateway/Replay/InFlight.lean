import PushGateway.Replay.Ledger

/-!
# Entries in flight

An entry without a response is in flight.  Two properties of a ledger speak of the callers who
claimed its documents: every entry in flight is held by one of them, and every charge has its entry
on the handle which the document names.  A document which nobody holds is then settled.
-/

namespace PushGateway.Ledger

variable {Issuer Handle Id Digest Response : Type}
  {ledger : Ledger Issuer Handle Id Digest Response}

/-- Every entry without a response is held. -/
def Held (holds : Issuer → Id → Digest → Prop)
    (ledger : Ledger Issuer Handle Id Digest Response) : Prop :=
  ∀ issuer id entry, ledger.entries issuer id = some entry → entry.response = none →
    holds issuer id entry.digest

/-- Every charge has its entry, with its retention, for a document which names the handle. -/
def Backed (names : Digest → Handle → Prop)
    (ledger : Ledger Issuer Handle Id Digest Response) : Prop :=
  ∀ handle, ∀ charge ∈ ledger.charges handle, ∃ entry,
    ledger.entries charge.issuer charge.id = some entry ∧
      entry.retainUntil = charge.retainUntil ∧ names entry.digest handle

namespace Held

variable {holds : Issuer → Id → Digest → Prop} {issuer : Issuer} {id : Id} {digest : Digest}

theorem mono {later : Issuer → Id → Digest → Prop} (held : ledger.Held holds)
    (kept : ∀ issuer id digest, holds issuer id digest → later issuer id digest) :
    ledger.Held later :=
  fun issuer id entry found unanswered => kept _ _ _ (held issuer id entry found unanswered)

theorem expire (held : ledger.Held holds) (now : DateTime) : (ledger.expire now).Held holds :=
  fun issuer id entry found => held issuer id entry (Option.filter_eq_some_iff.mp found).1

variable [DecidableEq Issuer] [DecidableEq Handle] [DecidableEq Id]

theorem accept (held : ledger.Held holds) (own : holds issuer id digest) (handle : Handle)
    (retainUntil : Option DateTime) :
    (ledger.accept issuer handle id digest retainUntil).Held holds := by
  intro other otherId entry found unanswered
  simp only [Ledger.accept, Ledger.charge, Ledger.enter] at found
  split at found
  · rename_i same
    obtain ⟨rfl, rfl⟩ := same
    cases found
    exact own
  · exact held other otherId entry found unanswered

/-- A document which is closed out needs no holder any more. -/
theorem complete [DecidableEq Digest] (held : ledger.Held holds) (issuer : Issuer)
    (handle : Handle) (id : Id) (digest : Digest) (response : Option Response) :
    (ledger.complete issuer handle id digest response).Held fun other otherId otherDigest =>
      holds other otherId otherDigest ∧
        ¬(other = issuer ∧ otherId = id ∧ otherDigest = digest) := by
  intro other otherId entry found unanswered
  cases response with
  | some response =>
      simp only [Ledger.complete, Ledger.recordResponse] at found
      split at found
      · obtain ⟨before, _, rfl⟩ := Option.map_eq_some_iff.mp found
        cases unanswered
      · rename_i different
        exact ⟨held other otherId entry found unanswered, fun own => different ⟨own.1, own.2.1⟩⟩
  | none =>
      simp only [Ledger.complete, Ledger.withdraw, Ledger.uncharge] at found
      split at found
      · obtain ⟨before, kept⟩ := Option.filter_eq_some_iff.mp found
        refine ⟨held other otherId entry before unanswered, fun own => ?_⟩
        have released : entry.releasedBy ledger.keepsAnswered digest = true :=
          Retained.releasedBy_iff.mpr ⟨own.2.2, .inl unanswered⟩
        simp [released] at kept
      · rename_i different
        exact ⟨held other otherId entry found unanswered, fun own => different ⟨own.1, own.2.1⟩⟩

end Held

namespace Backed

variable {names : Digest → Handle → Prop} {issuer : Issuer} {handle : Handle} {id : Id}
  {digest : Digest}

theorem expire (backed : ledger.Backed names) (now : DateTime) :
    (ledger.expire now).Backed names := by
  intro handle charge member
  obtain ⟨kept, live⟩ := List.mem_filter.mp member
  obtain ⟨entry, found, retained, named⟩ := backed handle charge kept
  refine ⟨entry, Option.filter_eq_some_iff.mpr ⟨found, ?_⟩, retained, named⟩
  rwa [Retained.live, retained]

variable [DecidableEq Issuer] [DecidableEq Handle] [DecidableEq Id]

theorem accept (backed : ledger.Backed names) (absent : ledger.entries issuer id = none)
    (named : names digest handle) (retainUntil : Option DateTime) :
    (ledger.accept issuer handle id digest retainUntil).Backed names := by
  have kept : ∀ other, ∀ charge ∈ ledger.charges other, ∃ entry,
      (ledger.accept issuer handle id digest retainUntil).entries charge.issuer charge.id =
          some entry ∧
        entry.retainUntil = charge.retainUntil ∧ names entry.digest other := by
    intro other charge member
    obtain ⟨entry, found, retained, named⟩ := backed other charge member
    refine ⟨entry, ?_, retained, named⟩
    simp only [Ledger.accept, Ledger.charge, Ledger.enter]
    rw [if_neg]
    · exact found
    · rintro ⟨rfl, rfl⟩
      cases absent.symm.trans found
  intro other charge member
  simp only [Ledger.accept, Ledger.charge, Ledger.enter] at member
  split at member
  · rename_i own
    obtain before | last := List.mem_append.mp member
    · exact kept other charge before
    · rw [List.mem_singleton.mp last, own]
      exact ⟨⟨digest, none, retainUntil⟩, by simp [Ledger.accept, Ledger.charge, Ledger.enter],
        rfl, named⟩
  · exact kept other charge member

/-- A charge may be taken off while its entry stays. -/
theorem uncharge (backed : ledger.Backed names) (handle : Handle) (issuer : Issuer) (id : Id) :
    (ledger.uncharge handle issuer id).Backed names := by
  intro other charge member
  simp only [Ledger.uncharge] at member
  split at member
  · exact backed other charge (List.mem_filter.mp member).1
  · exact backed other charge member

/-- A document is closed out on the only handle which it names. -/
theorem complete [DecidableEq Digest] (backed : ledger.Backed names)
    (only : ∀ other, names digest other → other = handle) (issuer : Issuer) (id : Id)
    (response : Option Response) :
    (ledger.complete issuer handle id digest response).Backed names := by
  intro other charge member
  cases response with
  | some response =>
      obtain ⟨entry, found, retained, named⟩ := backed other charge member
      simp only [Ledger.complete, Ledger.recordResponse]
      split
      · exact ⟨_, Option.map_eq_some_iff.mpr ⟨entry, found, rfl⟩, retained, named⟩
      · exact ⟨entry, found, retained, named⟩
  | none =>
      have kept : charge ∈ ledger.charges other ∧
          ¬(other = handle ∧ charge.issuer = issuer ∧ charge.id = id) := by
        simp only [Ledger.complete, Ledger.withdraw, Ledger.uncharge] at member
        split at member
        · obtain ⟨before, unmatched⟩ := List.mem_filter.mp member
          refine ⟨before, fun own => ?_⟩
          simp [own.2.1, own.2.2] at unmatched
        · rename_i different
          exact ⟨member, fun own => different own.1⟩
      obtain ⟨entry, found, retained, named⟩ := backed other charge kept.1
      refine ⟨entry, ?_, retained, named⟩
      simp only [Ledger.complete, Ledger.withdraw, Ledger.uncharge]
      split
      · rename_i same
        refine Option.filter_eq_some_iff.mpr ⟨found, ?_⟩
        have different : entry.digest ≠ digest := fun equal =>
          kept.2 ⟨only other (equal ▸ named), same⟩
        simpa using Retained.releasedBy_of_ne different ledger.keepsAnswered
      · exact found

end Backed

/-! ## Settled documents -/

variable {holds : Issuer → Id → Digest → Prop} {names : Digest → Handle → Prop} {issuer : Issuer}
  {handle : Handle} {id : Id} {digest : Digest}

/-- The response to the document is kept, or the document has been released, and what is still
charged for its identifier is another document. -/
def Settled (ledger : Ledger Issuer Handle Id Digest Response) (issuer : Issuer)
    (handle : Handle) (id : Id) (digest : Digest) : Prop :=
  (∃ entry, ledger.entries issuer id = some entry ∧ entry.digest = digest ∧
    entry.response.isSome = true) ∨
  (∀ entry, ledger.entries issuer id = some entry → entry.digest ≠ digest) ∧
    ∀ charge ∈ ledger.charges handle, charge.issuer = issuer → charge.id = id →
      ∃ entry, ledger.entries issuer id = some entry

theorem Backed.settled (backed : ledger.Backed names)
    (answered : ∀ entry, ledger.entries issuer id = some entry → entry.digest = digest →
      entry.response ≠ none) : ledger.Settled issuer handle id digest := by
  by_cases kept : ∃ entry, ledger.entries issuer id = some entry ∧ entry.digest = digest
  · obtain ⟨entry, found, same⟩ := kept
    exact .inl ⟨entry, found, same, Option.isSome_iff_ne_none.mpr (answered entry found same)⟩
  · refine .inr ⟨fun entry found same => kept ⟨entry, found, same⟩, ?_⟩
    rintro charge member rfl rfl
    obtain ⟨entry, found, _⟩ := backed handle charge member
    exact ⟨entry, found⟩

variable [DecidableEq Issuer] [DecidableEq Handle] [DecidableEq Id]

/-- A redelivery is answered with the kept response or attempted again.  It may always be refused
because a budget is used up. -/
def Retried (ledger : Ledger Issuer Handle Id Digest Response) (issuer : Issuer) (id : Id)
    (digest : Digest) (now : DateTime) (result : Except RejectReason (Admission Response)) :
    Prop :=
  match (ledger.expire now).entries issuer id with
  | none => result = .error busy ∨ result = .ok .fresh
  | some entry => entry.digest = digest →
      result = .error busy ∨ ∃ prior, entry.response = some prior ∧ result = .ok (.answered prior)

/-- A claim of a document which nobody holds is no claim of one in flight. -/
theorem Held.retried (held : ledger.Held holds) (free : ¬holds issuer id digest)
    {after : Ledger Issuer Handle Id Digest Response} {retainUntil : Option DateTime}
    {now : DateTime} {result : Except RejectReason (Admission Response)}
    (claimed : ledger.Claimed issuer handle id digest retainUntil now result after) :
    ledger.Retried issuer id digest now result := by
  rw [Retried]
  cases claimed with
  | busy =>
      split
      · exact .inl rfl
      · exact fun _ => .inl rfl
  | fresh absent =>
      rw [absent]
      exact .inr rfl
  | answered entry prior found same response =>
      rw [found]
      exact fun _ => .inr ⟨prior, response, rfl⟩
  | inFlight entry found same unanswered =>
      rw [← same] at free
      exact absurd (held.expire now issuer id entry found unanswered) free
  | conflict entry found different =>
      rw [found]
      exact fun same => absurd same different

variable [DecidableEq Digest]

/-- No entry of the document is left to release, and nothing is charged for its identifier. -/
def Released (ledger : Ledger Issuer Handle Id Digest Response) (issuer : Issuer)
    (handle : Handle) (id : Id) (digest : Digest) : Prop :=
  (∀ entry, ledger.entries issuer id = some entry →
      entry.releasedBy ledger.keepsAnswered digest = false) ∧
    ∀ charge ∈ ledger.charges handle, ¬(charge.issuer = issuer ∧ charge.id = id)

/-- A completion without a response releases the document. -/
theorem complete_released (ledger : Ledger Issuer Handle Id Digest Response) (issuer : Issuer)
    (handle : Handle) (id : Id) (digest : Digest) :
    (ledger.complete issuer handle id digest none).Released issuer handle id digest := by
  constructor
  · intro entry found
    simp only [Ledger.complete, Ledger.withdraw, and_self, if_true] at found
    simpa [Ledger.complete, Ledger.withdraw] using (Option.filter_eq_some_iff.mp found).2
  · intro charge member own
    simp only [Ledger.complete, Ledger.withdraw, Ledger.uncharge, if_true] at member
    have kept := (List.mem_filter.mp member).2
    simp [own.1, own.2] at kept

/-- Whatever is closed out is gone, or keeps the response given, or had one which is kept. -/
theorem complete_answered {response : Option Response} {entry : Retained Digest Response}
    (found : (ledger.complete issuer handle id digest response).entries issuer id = some entry)
    (same : entry.digest = digest) :
    (∃ kept, response = some kept ∧ entry.response = some kept) ∨
      response = none ∧ ledger.keepsAnswered = true ∧ entry.response ≠ none ∧
        ledger.entries issuer id = some entry := by
  cases response with
  | some kept =>
      simp only [Ledger.complete, Ledger.recordResponse, and_self, if_true] at found
      obtain ⟨before, _, rfl⟩ := Option.map_eq_some_iff.mp found
      exact .inl ⟨kept, rfl, rfl⟩
  | none =>
      have left := (ledger.complete_released issuer handle id digest).1 entry found
      have kept := mt Retained.releasedBy_iff.mpr (Bool.eq_false_iff.mp left)
      simp only [same, true_and, not_or, Bool.not_eq_false] at kept
      simp only [Ledger.complete, Ledger.withdraw, and_self, if_true] at found
      exact .inr ⟨rfl, kept.2, kept.1, (Option.filter_eq_some_iff.mp found).1⟩

end PushGateway.Ledger
