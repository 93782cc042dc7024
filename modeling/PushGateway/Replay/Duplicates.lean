import PushGateway.Replay.Fairness

/-!
# What a duplicate is answered

Calls made one at a time, of any callers and at any instants.  An entry of the record is traced to
the claim which made it, and a claim is answered with a response exactly when the document's entry
is still there, was last completed with that response, and every budget leaves room: the budgets
are checked for a duplicate as for a new document.
-/

namespace PushGateway

open Execution ReplayGuard

/-! ## What a call does to an entry -/

namespace Call

variable {Issuer Handle Id Digest Response : Type} [DecidableEq Issuer] [DecidableEq Id]

/-- The response which the call completes a document of this identifier with. -/
def completes (issuer : Issuer) (id : Id) :
    Call Issuer Handle Id Digest Response → Option Response
  | .complete other _ otherId _ response =>
      if issuer = other ∧ id = otherId then response else none
  | .claim _ _ _ _ _ _ => none

/-- What the call leaves of an entry of this identifier which it keeps. -/
def leaves (issuer : Issuer) (id : Id) (entry : Retained Digest Response)
    (call : Call Issuer Handle Id Digest Response) : Retained Digest Response :=
  { entry with response := (call.completes issuer id).or entry.response }

/-- No call changes what an entry was claimed with. -/
theorem run_leaves (issuer : Issuer) (id : Id) (entry : Retained Digest Response)
    (calls : List (Call Issuer Handle Id Digest Response)) :
    (run (leaves issuer id) entry calls).digest = entry.digest ∧
      (run (leaves issuer id) entry calls).retainUntil = entry.retainUntil := by
  induction calls generalizing entry with
  | nil => exact ⟨rfl, rfl⟩
  | cons call calls induction => exact induction (leaves issuer id entry call)

variable [DecidableEq Digest]

/-- The call leaves an entry of this identifier in place: a claim made while it is retained, or a
completion which does not take it back. -/
def Keeps (keepsAnswered : Bool) (issuer : Issuer) (id : Id) (entry : Retained Digest Response) :
    Call Issuer Handle Id Digest Response → Prop
  | .claim _ _ _ _ _ now => entry.live now = true
  | .complete other _ otherId digest none =>
      ¬(issuer = other ∧ id = otherId ∧ entry.releasedBy keepsAnswered digest = true)
  | .complete _ _ _ _ (some _) => True

instance (keepsAnswered : Bool) (issuer : Issuer) (id : Id) (entry : Retained Digest Response) :
    DecidablePred
      (Keeps keepsAnswered issuer id entry : Call Issuer Handle Id Digest Response → Prop)
  | .claim _ _ _ _ _ _ => inferInstanceAs (Decidable (_ = _))
  | .complete _ _ _ _ none => inferInstanceAs (Decidable ¬(_ ∧ _ ∧ _ = _))
  | .complete _ _ _ _ (some _) => isTrue trivial

end Call

variable {Guard Issuer Handle Id Digest Response : Type} [DecidableEq Issuer] [DecidableEq Handle]

/-! ## What a claim answers -/

namespace ReplayRecord

variable [ReplayGuard Guard Id Digest Response]

/-- Every budget leaves room for the caller, once what has expired is dropped. -/
def Admits (bounds : Bounds) (record : ReplayRecord Guard Issuer Handle Id) (issuer : Issuer)
    (handle : Handle) (now : DateTime) : Prop :=
  ((record.purge now).charges handle).length < bounds.perHandle ∧
    (record.purge now).heldBy issuer < bounds.perIssuer ∧
    (record.purge now).totalHeld < bounds.hardBound ∧
    ((record.purge now).totalHeld < bounds.total ∨
      (record.purge now).heldBy issuer <
        max (bounds.total / max ((record.purge now).active issuer) 1) 1)

instance (bounds : Bounds) (record : ReplayRecord Guard Issuer Handle Id) (issuer : Issuer)
    (handle : Handle) (now : DateTime) : Decidable (Admits bounds record issuer handle now) :=
  inferInstanceAs (Decidable (_ ∧ _ ∧ _ ∧ (_ ∨ _)))

variable [LawfulReplayGuard Guard]

/-- A partition refuses exactly the callers for whom a budget leaves no room. -/
theorem partition_busy_iff (bounds : Bounds) (record : ReplayRecord Guard Issuer Handle Id)
    (issuer : Issuer) (handle : Handle) (now : DateTime) :
    (record.partition bounds issuer handle now).1 = .error busy ↔
      ¬Admits bounds record issuer handle now := by
  have opened := len_entryOrInsert bounds (record.purge now) issuer
  simp only [partition, Admits, ← totalHeld_purge]
  generalize (record.purge now).entryOrInsert bounds issuer = entered at opened ⊢
  obtain ⟨arc, after⟩ := entered
  dsimp only at opened ⊢
  rw [opened]
  split
  · rename_i charged
    simp [Nat.not_lt.mpr charged]
  · rename_i chargesRoom
    split
    · rename_i full
      simp only [true_iff]
      omega
    · rename_i room
      simp only [reduceCtorEq, false_iff, not_not]
      omega

variable [DecidableEq Digest]

/-- The answer to a claim, from the entry which is live at the instant. -/
def answerFrom (digest : Digest) :
    Option (Retained Digest Response) → Except RejectReason (Admission Response)
  | none => .ok .fresh
  | some entry =>
      if entry.digest = digest then
        match entry.response with
        | some prior => .ok (.answered prior)
        | none => .error alreadyAccepted
      else .error .idConflict

theorem answerFrom_answered_iff (digest : Digest) (entry : Option (Retained Digest Response))
    (prior : Response) :
    answerFrom digest entry = .ok (.answered prior) ↔
      ∃ kept, entry = some kept ∧ kept.digest = digest ∧ kept.response = some prior := by
  cases entry with
  | none => simp [answerFrom]
  | some entry =>
      simp only [answerFrom, Option.some.injEq, exists_eq_left']
      split
      · rename_i same
        cases entry.response <;> simp [same]
      · rename_i different
        simp [different]

/-- What a claim answers: it is refused as busy where a budget leaves no room, and otherwise
answered from the live entry. -/
theorem claim_answer {bounds : Bounds} {record : ReplayRecord Guard Issuer Handle Id}
    (wellFormed : record.WellFormed bounds) (issuer : Issuer) (handle : Handle) (id : Id)
    (digest : Digest) (retainUntil : Option DateTime) (now : DateTime) :
    (record.claim bounds issuer handle id digest retainUntil now).1 =
      if Admits bounds record issuer handle now then
        answerFrom digest ((record.ledger.expire now).entries issuer id)
      else .error busy := by
  have busy_iff := partition_busy_iff bounds record issuer handle now
  obtain ⟨_, openedLedger, answer⟩ := partition_spec wellFormed issuer handle now
  rw [claim]
  generalize record.partition bounds issuer handle now = opened at *
  obtain ⟨result, opened⟩ := opened
  dsimp only at busy_iff openedLedger answer
  rcases answer with refused | ⟨arc, allowed, open_⟩
  · rw [if_neg (busy_iff.mp refused), refused]
  · subst allowed
    have admits := not_not.mp (mt busy_iff.mpr (by simp))
    rw [if_pos admits]
    have entries : ∀ other, opened.entry issuer other =
        (record.ledger.expire now).entries issuer other := fun other =>
      congrArg (fun ledger => ledger.entries issuer other) openedLedger
    have live : ∀ other entry, opened.entry issuer other = some entry → entry.live now := by
      intro other entry found
      rw [entries] at found
      exact (Option.filter_eq_some_iff.mp found).2
    have verdict := claimGuard_verdict live open_.found id digest retainUntil
    rw [entries] at verdict
    dsimp only
    generalize opened.claimGuard arc id digest retainUntil now = claimed at *
    obtain ⟨verdict', claimed⟩ := claimed
    dsimp only at verdict
    subst verdict
    cases (record.ledger.expire now).entries issuer id with
    | none => rfl
    | some entry =>
        by_cases same : entry.digest = digest
        · simp only [answerFrom, if_pos same]
          cases entry.response <;> rfl
        · simp only [answerFrom, if_neg same]
          rfl

end ReplayRecord

/-! ## What a run leaves of an entry -/

variable [DecidableEq Id] [DecidableEq Digest]

namespace Ledger

/-- A claim keeps the entries which are retained, and enters one if it is fresh. -/
theorem Claimed.entries_iff {ledger after : Ledger Issuer Handle Id Digest Response}
    {caller : Issuer} {handle : Handle} {asked : Id} {digest : Digest}
    {retainUntil : Option DateTime} {now : DateTime}
    {result : Except RejectReason (Admission Response)}
    (claimed : ledger.Claimed caller handle asked digest retainUntil now result after)
    (issuer : Issuer) (id : Id) (entry : Retained Digest Response) :
    after.entries issuer id = some entry ↔
      (result = .ok .fresh ∧ issuer = caller ∧ id = asked ∧
          entry = ⟨digest, none, retainUntil⟩) ∨
        (ledger.entries issuer id = some entry ∧ entry.live now = true) := by
  have kept : (ledger.expire now).entries issuer id = some entry ↔
      ledger.entries issuer id = some entry ∧ entry.live now = true :=
    Option.filter_eq_some_iff
  by_cases fresh : result = .ok .fresh
  · subst fresh
    obtain ⟨absent, left⟩ := claimed.of_fresh
    rw [left, ← kept]
    simp only [accept, charge, enter, true_and]
    by_cases own : issuer = caller ∧ id = asked
    · obtain ⟨rfl, rfl⟩ := own
      simp [absent, eq_comm]
    · rw [if_neg own]
      tauto
  · rw [claimed.ledger_of_not_fresh fresh, kept]
    simp [fresh]

/-- A completion keeps the entries which it does not take back, with its response in the one of
its own identifier. -/
theorem entries_complete_iff (ledger : Ledger Issuer Handle Id Digest Response) (caller : Issuer)
    (handle : Handle) (asked : Id) (digest : Digest) (response : Option Response)
    (issuer : Issuer) (id : Id) (entry : Retained Digest Response) :
    (ledger.complete caller handle asked digest response).entries issuer id = some entry ↔
      ∃ before, ledger.entries issuer id = some before ∧
        (Call.complete caller handle asked digest response).Keeps ledger.keepsAnswered issuer id
          before ∧
        entry = (Call.complete caller handle asked digest response).leaves issuer id before := by
  by_cases own : issuer = caller ∧ id = asked
  · cases response with
    | some response =>
        simp only [complete, recordResponse, Call.Keeps, Call.leaves, Call.completes, if_pos own,
          true_and, Option.some_or, Option.map_eq_some_iff]
        exact exists_congr fun before => and_congr_right fun _ => eq_comm
    | none =>
        obtain ⟨rfl, rfl⟩ := own
        simp [complete, withdraw, uncharge, Call.Keeps, Call.leaves, Call.completes,
          Option.filter_eq_some_iff, ← and_assoc]
  · have absent : Call.completes issuer id
        (.complete caller handle asked digest response) = none := if_neg own
    cases response with
    | some response => simp [complete, recordResponse, Call.Keeps, Call.leaves, absent, own]
    | none =>
        simp [complete, withdraw, uncharge, Call.Keeps, Call.leaves, absent, own, ← and_assoc]

end Ledger

namespace ReplayRecord

variable [ReplayGuard Guard Id Digest Response]

/-- The entry of a document, traced to the fresh claim which made it: every call since has left it
in place as it was then, and it is what they have left of it. -/
def Traced (Guard : Type) [ReplayGuard Guard Id Digest Response] (bounds : Bounds)
    (calls : List (Call Issuer Handle Id Digest Response)) (issuer : Issuer) (id : Id)
    (entry : Retained Digest Response) : Prop :=
  ∃ front handle claimedAt since,
    calls = front ++ .claim issuer handle id entry.digest entry.retainUntil claimedAt :: since ∧
      ((afterCalls bounds front : ReplayRecord Guard Issuer Handle Id).claim bounds issuer handle id
        entry.digest entry.retainUntil claimedAt).1 = .ok .fresh ∧
      Along (Call.leaves issuer id) (Call.Keeps (keepsAnswered Guard) issuer id)
        ⟨entry.digest, none, entry.retainUntil⟩ since ∧
      run (Call.leaves issuer id) ⟨entry.digest, none, entry.retainUntil⟩ since = entry

theorem not_traced_nil (bounds : Bounds) (issuer : Issuer) (id : Id)
    (entry : Retained Digest Response) :
    ¬Traced Guard bounds ([] : List (Call Issuer Handle Id Digest Response)) issuer id entry := by
  rintro ⟨front, handle, claimedAt, since, whole, -⟩
  simp at whole

/-- After one more call, an entry is the one which the call made, or one which it kept. -/
theorem traced_concat_iff (bounds : Bounds)
    (calls : List (Call Issuer Handle Id Digest Response))
    (last : Call Issuer Handle Id Digest Response) (issuer : Issuer) (id : Id)
    (entry : Retained Digest Response) :
    Traced Guard bounds (calls ++ [last]) issuer id entry ↔
      (∃ handle claimedAt, last = .claim issuer handle id entry.digest entry.retainUntil claimedAt ∧
          ((afterCalls bounds calls : ReplayRecord Guard Issuer Handle Id).claim bounds issuer
            handle id entry.digest entry.retainUntil claimedAt).1 = .ok .fresh ∧
          entry.response = none) ∨
        ∃ before, Traced Guard bounds calls issuer id before ∧
          last.Keeps (keepsAnswered Guard) issuer id before ∧
            entry = last.leaves issuer id before := by
  constructor
  · rintro ⟨front, handle, claimedAt, since, whole, fresh, kept, left⟩
    rcases List.eq_nil_or_concat since with rfl | ⟨since, call, rfl⟩
    · obtain ⟨rfl, same⟩ := List.append_inj' whole rfl
      exact .inl ⟨handle, claimedAt, List.singleton_inj.mp same, fresh, by rw [← left]; rfl⟩
    · rw [List.concat_eq_append] at whole left kept
      rw [← List.cons_append, ← List.append_assoc] at whole
      obtain ⟨rfl, same⟩ := List.append_inj' whole rfl
      cases List.singleton_inj.mp same
      obtain ⟨keptBefore, keeps, -⟩ := (along_append _ since [last]).mp kept
      rw [run_concat] at left
      obtain ⟨digest, retained⟩ :=
        Call.run_leaves issuer id ⟨entry.digest, none, entry.retainUntil⟩ since
      generalize result : run _ _ since = before at *
      have traced : Traced Guard bounds
          (front ++ .claim issuer handle id entry.digest entry.retainUntil claimedAt :: since)
          issuer id before := by
        rw [Traced, digest, retained]
        exact ⟨front, handle, claimedAt, since, rfl, fresh, keptBefore, result⟩
      exact .inr ⟨before, traced, keeps, left.symm⟩
  · rintro (⟨handle, claimedAt, rfl, fresh, unanswered⟩ | ⟨before, traced, keeps, rfl⟩)
    · exact ⟨calls, handle, claimedAt, [], rfl, fresh, trivial, by rw [run_nil, ← unanswered]⟩
    · obtain ⟨front, handle, claimedAt, since, rfl, fresh, kept, left⟩ := traced
      refine ⟨front, handle, claimedAt, since ++ [last], by simp [Call.leaves], fresh, ?_, ?_⟩
      · change Along _ _ (⟨before.digest, none, before.retainUntil⟩ : Retained Digest Response) _
        rw [along_append, left]
        exact ⟨kept, keeps, trivial⟩
      · rw [run_concat]
        exact congrArg (Call.leaves issuer id · last) left

variable [LawfulReplayGuard Guard]

/-- What one call on a well-formed record does to an entry. -/
theorem entry_perform_iff {bounds : Bounds} {record : ReplayRecord Guard Issuer Handle Id}
    (wellFormed : record.WellFormed bounds) (call : Call Issuer Handle Id Digest Response)
    (issuer : Issuer) (id : Id) (entry : Retained Digest Response) :
    (record.perform bounds call).entry issuer id = some entry ↔
      (∃ handle claimedAt,
          call = .claim issuer handle id entry.digest entry.retainUntil claimedAt ∧
          (record.claim bounds issuer handle id entry.digest entry.retainUntil claimedAt).1 =
            .ok .fresh ∧
          entry.response = none) ∨
        ∃ before, record.entry issuer id = some before ∧
          call.Keeps (keepsAnswered Guard) issuer id before ∧
            entry = call.leaves issuer id before := by
  cases call with
  | claim caller handle asked digest retainUntil now =>
      have claimed :=
        (claim_refines wellFormed caller handle asked digest retainUntil now).2.entries_iff issuer
          id entry
      refine claimed.trans (or_congr ?_ ?_)
      · constructor
        · rintro ⟨fresh, rfl, rfl, rfl⟩
          exact ⟨handle, now, rfl, fresh, rfl⟩
        · rintro ⟨_, _, same, fresh, unanswered⟩
          cases same
          exact ⟨fresh, rfl, rfl, by rw [← unanswered]⟩
      · constructor
        · rintro ⟨found, live⟩
          exact ⟨entry, found, live, rfl⟩
        · rintro ⟨before, found, live, rfl⟩
          exact ⟨found, live⟩
  | complete caller handle asked digest response =>
      have completed := (complete_refines wellFormed caller handle asked digest response).2
      change (record.complete caller handle asked digest response).ledger.entries issuer id =
        some entry ↔ _
      rw [completed, Ledger.entries_complete_iff]
      refine (or_iff_right ?_).symm
      rintro ⟨_, _, ⟨⟩, _⟩

/-- After any calls, exactly the traced entries are held. -/
theorem entry_afterCalls_iff (bounds : Bounds)
    (calls : List (Call Issuer Handle Id Digest Response)) (issuer : Issuer) (id : Id)
    (entry : Retained Digest Response) :
    (afterCalls bounds calls : ReplayRecord Guard Issuer Handle Id).entry issuer id = some entry ↔
      Traced Guard bounds calls issuer id entry := by
  induction calls using List.reverseRecOn generalizing entry with
  | nil =>
      have absent : (new : ReplayRecord Guard Issuer Handle Id).entry issuer id = none :=
        entry_of_absent rfl id
      simp [afterCalls, absent, not_traced_nil]
  | append_singleton calls last induction =>
      have stepped : (afterCalls bounds (calls ++ [last]) : ReplayRecord Guard Issuer Handle Id) =
          perform bounds (afterCalls bounds calls) last := Execution.run_concat _ _ _
      rw [traced_concat_iff, stepped, entry_perform_iff (afterCalls_wellFormed bounds calls)]
      simp only [← induction]

/-- After any calls, made one at a time, a claim is answered with a response exactly when every
budget leaves room and the document was claimed fresh, its retention passed at no claim since and
has not passed now, no completion has taken it back, and the last response completed under its
identifier is this one. -/
theorem duplicate_answered_iff (bounds : Bounds)
    (calls : List (Call Issuer Handle Id Digest Response)) (issuer : Issuer) (handle : Handle)
    (id : Id) (digest : Digest) (retainUntil : Option DateTime) (now : DateTime)
    (response : Response) :
    ((afterCalls bounds calls : ReplayRecord Guard Issuer Handle Id).claim bounds issuer handle id
        digest retainUntil now).1 = .ok (.answered response) ↔
      (afterCalls bounds calls : ReplayRecord Guard Issuer Handle Id).Admits bounds issuer handle
          now ∧
        ∃ retained, unexpired retained now = true ∧
          Traced Guard bounds calls issuer id ⟨digest, some response, retained⟩ := by
  rw [claim_answer (afterCalls_wellFormed bounds calls)]
  split
  · rename_i admits
    simp only [answerFrom_answered_iff, admits, true_and, ← entry_afterCalls_iff]
    constructor
    · rintro ⟨⟨_, _, retained⟩, found, rfl, rfl⟩
      obtain ⟨entered, live⟩ := Option.filter_eq_some_iff.mp found
      exact ⟨retained, live, entered⟩
    · rintro ⟨retained, live, entered⟩
      exact ⟨_, Option.filter_eq_some_iff.mpr ⟨entered, live⟩, rfl, rfl⟩
  · rename_i refused
    simp [refused]

end ReplayRecord

/-! ## A duplicate after a late release, and one at a full budget -/

private abbrev SmallRecord := ReplayRecord (ReferenceGuard Nat Nat Nat) Nat Nat Nat

/-- A document is claimed again after its retention and completed.  The first claim's completion
without a response comes last, beside another document on the handle. -/
private def releasedLate : List (Call Nat Nat Nat Nat Nat) :=
  [.claim 0 0 0 1 (some 1) 0, .claim 0 0 0 1 (some 9) 2, .claim 1 0 2 2 none 2,
    .complete 0 0 0 1 (some 5), .complete 0 0 0 1 none]

theorem ReplayRecord.duplicate_answered_after_late_release :
    ((afterCalls Bounds.default releasedLate : SmallRecord).claim Bounds.default 0 0 0 1
      (some 9) 3).1 = .ok (.answered 5) :=
  (duplicate_answered_iff Bounds.default releasedLate 0 0 0 1 (some 9) 3 5).mpr
    ⟨by decide, some 9, by decide, [.claim 0 0 0 1 (some 1) 0], 0, 2, _, rfl, by decide, by decide,
      by decide⟩

/-- One record for each handle. -/
private def oneCharge : Bounds :=
  { Bounds.default with perHandle := 1, perHandle_pos := by decide }

/-- The document's own record fills its handle's budget, and its duplicate is refused as busy. -/
theorem ReplayRecord.answered_document_refused :
    ¬∀ (bounds : Bounds) (front since : List (Call Nat Nat Nat Nat Nat))
      (issuer handle id digest : Nat) (retainUntil : Option DateTime) (claimed now : DateTime)
      (response : Nat),
      ((afterCalls bounds front : SmallRecord).claim bounds issuer handle id digest retainUntil
        claimed).1 = .ok .fresh →
      .complete issuer handle id digest (some response) ∈ since →
      unexpired retainUntil now = true →
      ((afterCalls bounds
          (front ++ .claim issuer handle id digest retainUntil claimed :: since) :
        SmallRecord).claim bounds issuer handle id digest retainUntil now).1 =
          .ok (.answered response) := by
  intro answered
  exact absurd (answered oneCharge [] [.complete 0 0 0 1 (some 5)] 0 0 0 1 (some 9) 0 1 5
    (by decide) List.mem_cons_self (by decide)) (by decide)

end PushGateway
