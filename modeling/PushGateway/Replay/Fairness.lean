import PushGateway.Replay.Concurrent

/-!
# Who is admitted once the record fills up

Calls made one at a time.  The fair share keeps an issuer which holds records from taking more,
but every issuer is granted its share of what the total was when it came, and these shares add up
without bound.  A newcomer is admitted exactly while the hard bound is not reached.
-/

namespace PushGateway

open ReplayGuard

variable {Guard Issuer Handle Id Digest Response : Type}
  [ReplayGuard Guard Id Digest Response]

namespace ReplayRecord

/-! ## What a newcomer meets -/

section Newcomers

/-- A handle without live charges has none left after a purge. -/
theorem charges_purge_of_expired [DecidableEq Handle]
    {record : ReplayRecord Guard Issuer Handle Id} {handle : Handle}
    {now : DateTime}
    (expired : ∀ charge ∈ record.charges handle, unexpired charge.retainUntil now = false) :
    (record.purge now).charges handle = [] := by
  rw [charges_purge, List.filter_eq_nil_iff]
  intro charge member
  simp [expired charge member]

variable [LawfulReplayGuard Guard]

variable [DecidableEq Issuer]

/-- An issuer without live records has no partition left after a purge. -/
theorem lookup_purge_of_expired {record : ReplayRecord Guard Issuer Handle Id} {issuer : Issuer}
    {now : DateTime}
    (expired : ∀ id entry, record.entry issuer id = some entry → entry.live now = false) :
    (record.purge now).issuers.lookup issuer = none := by
  cases found : record.issuers.lookup issuer with
  | none => simp [purge, AssocMap.lookup_retain, found]
  | some arc =>
      have member := (AssocMap.mem_values_iff record.issuers arc).mpr ⟨issuer, found⟩
      have empty : len (record.purgedGuards now arc) = 0 := by
        rw [len_eq_zero_iff]
        intro id
        rw [retained_purgedGuards record now member, ← entry_of_lookup found]
        cases kept : record.entry issuer id with
        | none => rfl
        | some entry => simp [Option.filter_some, expired id entry kept]
      simp [purge, AssocMap.lookup_retain, found, empty]

variable [DecidableEq Handle]

/-- The partition of a newcomer is refused at the hard bound only. -/
theorem partition_newcomer (bounds : Bounds) {record : ReplayRecord Guard Issuer Handle Id}
    {issuer : Issuer} {handle : Handle} {now : DateTime}
    (absent : (record.purge now).issuers.lookup issuer = none)
    (uncharged : (record.purge now).charges handle = []) :
    (record.partition bounds issuer handle now).1 =
      if bounds.hardBound ≤ (record.purge now).totalHeld then .error busy
      else .ok record.nextArc := by
  have opened : (record.purge now).entryOrInsert bounds issuer =
      (record.nextArc, (record.purge now).openPartition bounds issuer) := by
    rw [entryOrInsert, absent]
    rfl
  have empty :
      len (((record.purge now).openPartition bounds issuer).guards record.nextArc) = 0 :=
    len_openPartition bounds (record.purge now) issuer
  have chargeRoom : ¬bounds.perHandle ≤ ([] : List (HandleCharge Issuer Id)).length :=
    Nat.not_le.mpr bounds.perHandle_pos
  have issuerRoom : ¬bounds.perIssuer ≤ 0 := Nat.not_le.mpr bounds.perIssuer_pos
  rw [totalHeld_purge]
  simp only [partition, uncharged, if_neg chargeRoom, opened, empty]
  have fairRoom : ¬max (bounds.total / max ((record.purge now).active issuer) 1) 1 ≤ 0 := by
    omega
  simp only [issuerRoom, fairRoom, and_false, false_or, or_false]
  split <;> rfl

end Newcomers

/-! ## The record after calls -/

variable [DecidableEq Issuer] [DecidableEq Handle] [DecidableEq Id] [DecidableEq Digest]

/-- One call from beginning to end. -/
def perform (bounds : Bounds) (record : ReplayRecord Guard Issuer Handle Id) :
    Call Issuer Handle Id Digest Response → ReplayRecord Guard Issuer Handle Id
  | .claim issuer handle id digest retainUntil now =>
      (record.claim bounds issuer handle id digest retainUntil now).2
  | .complete issuer handle id digest response => record.complete issuer handle id digest response

/-- The record after a list of calls, each made when the one before has returned. -/
def afterCalls (bounds : Bounds) (calls : List (Call Issuer Handle Id Digest Response)) :
    ReplayRecord Guard Issuer Handle Id :=
  Execution.run (perform bounds) new calls

section Lawful

variable [LawfulReplayGuard Guard]

theorem afterCalls_wellFormed (bounds : Bounds)
    (calls : List (Call Issuer Handle Id Digest Response)) :
    (afterCalls bounds calls : ReplayRecord Guard Issuer Handle Id).WellFormed bounds := by
  have preserved : ∀ (record : ReplayRecord Guard Issuer Handle Id)
      (call : Call Issuer Handle Id Digest Response), record.WellFormed bounds →
      (perform bounds record call).WellFormed bounds := ?_
  · exact Execution.invariant_of_always preserved (new_wellFormed bounds) calls
  intro record call wellFormed
  cases call with
  | claim issuer handle id digest retainUntil now =>
      exact (claim_refines wellFormed issuer handle id digest retainUntil now).1
  | complete issuer handle id digest response =>
      exact (complete_refines wellFormed issuer handle id digest response).1

/-- An issuer which holds no live record, on a handle without live charges, is admitted exactly
while the live records of all issuers are below the hard bound. -/
theorem newcomer_admitted_iff (bounds : Bounds)
    (calls : List (Call Issuer Handle Id Digest Response)) (issuer : Issuer) (handle : Handle)
    (id : Id) (digest : Digest) (retainUntil : Option DateTime) (now : DateTime)
    (noRecord : ∀ other entry,
      (afterCalls bounds calls : ReplayRecord Guard Issuer Handle Id).entry issuer other =
        some entry → entry.live now = false)
    (noCharge : ∀ charge ∈
      (afterCalls bounds calls : ReplayRecord Guard Issuer Handle Id).charges handle,
        unexpired charge.retainUntil now = false) :
    ((afterCalls bounds calls : ReplayRecord Guard Issuer Handle Id).claim bounds issuer handle id
        digest retainUntil now).1 = .ok .fresh ↔
      ((afterCalls bounds calls : ReplayRecord Guard Issuer Handle Id).purge now).totalHeld <
        bounds.hardBound := by
  have wellFormed : (afterCalls bounds calls : ReplayRecord Guard Issuer Handle Id).WellFormed
      bounds := afterCalls_wellFormed bounds calls
  generalize (afterCalls bounds calls : ReplayRecord Guard Issuer Handle Id) = record at *
  have absent := lookup_purge_of_expired noRecord
  have opened := partition_newcomer bounds absent (charges_purge_of_expired noCharge)
  obtain ⟨_, ledger, answer⟩ := partition_spec wellFormed issuer handle now
  rw [claim]
  generalize record.partition bounds issuer handle now = partitioned at *
  obtain ⟨result, after⟩ := partitioned
  dsimp only at opened ledger answer
  split at opened
  · rename_i full
    subst opened
    simp [Nat.not_lt.mpr full]
  · rename_i room
    subst opened
    rcases answer with refused | ⟨arc, allowed, resolved⟩
    · cases refused
    · cases allowed
      have unused : retained (after.guards record.nextArc) id = none := by
        rw [← entry_of_lookup resolved.found]
        refine (congrArg (fun ledger => ledger.entries issuer id) ledger).trans ?_
        simp only [Ledger.expire]
        cases kept : record.entry issuer id with
        | none => simp [ReplayRecord.ledger, kept]
        | some entry => simp [ReplayRecord.ledger, kept, Option.filter_some, noRecord id entry kept]
      have fresh := LawfulReplayGuard.claim_absent _ id digest retainUntil now unused
      simp only [claimGuard, fresh]
      simpa using Nat.lt_of_not_le room

end Lawful

end ReplayRecord

/-! ## The lock-out -/

private abbrev FairRecord := ReplayRecord (ReferenceGuard Nat Nat Nat) Nat Nat Nat

private def sixBounds : Bounds :=
  { Bounds.default with total := 6, total_pos := by decide }

private def claims (issuer count : Nat) : List (Call Nat Nat Nat Nat Nat) :=
  (List.range count).map fun id => .claim issuer issuer id 0 (some 1) 0

/-- Four issuers take the whole soft bound, a half, a third and a quarter of it. -/
private def shares : List (Call Nat Nat Nat Nat Nat) :=
  claims 1 6 ++ claims 2 3 ++ claims 3 2 ++ claims 4 1

theorem ReplayRecord.newcomer_admitted_beside_one :
    ((ReplayRecord.afterCalls sixBounds (claims 1 6) : FairRecord).claim sixBounds 5 5 0 0 (some 1)
        0).1 = .ok .fresh ↔
      ((ReplayRecord.afterCalls sixBounds (claims 1 6) : FairRecord).purge 0).totalHeld <
        sixBounds.hardBound :=
  ReplayRecord.newcomer_admitted_iff sixBounds (claims 1 6) 5 5 0 0 (some 1) 0
    (fun other entry found => by
      have absent : (ReplayRecord.afterCalls sixBounds (claims 1 6) : FairRecord).issuers.lookup 5 =
          none := by decide
      rw [ReplayRecord.entry_of_absent absent] at found
      cases found)
    (by decide)

/-- The shares granted to four issuers reach the hard bound, and a fifth is locked out. -/
theorem ReplayRecord.newcomer_locked_out :
    ¬∀ (bounds : Bounds) (calls : List (Call Nat Nat Nat Nat Nat)) (issuer handle id digest : Nat)
      (retainUntil : Option DateTime) (now : DateTime),
      (∀ other entry, (afterCalls bounds calls : FairRecord).entry issuer other = some entry →
        entry.live now = false) →
      (∀ charge ∈ (afterCalls bounds calls : FairRecord).charges handle,
        unexpired charge.retainUntil now = false) →
      ((afterCalls bounds calls : FairRecord).claim bounds issuer handle id digest retainUntil
        now).1 = .ok .fresh := by
  intro admitted
  have absent : (afterCalls sixBounds shares : FairRecord).issuers.lookup 5 = none := by decide
  have fifth := admitted sixBounds shares 5 5 0 0 (some 1) 0
    (fun other entry found => by
      rw [entry_of_absent absent] at found
      cases found)
    (by decide)
  exact absurd fifth (by decide)

end PushGateway
