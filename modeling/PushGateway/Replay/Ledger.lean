import PushGateway.Replay.Record

/-!
# The ledger behind the replay record

What the record is for, without partitions, addresses or budgets: which documents each issuer
has had accepted, which of them each handle is charged with, and whether an answered document can
still be taken back.  `Claimed` says what a claim may
answer and what it then leaves in the ledger.  The record refines it: a claim or a completion on
a well-formed record does to its ledger exactly what the ledger's own operations do.
-/

namespace PushGateway

open ReplayGuard

/-- The accepted documents of every issuer, and the records charged to every handle. -/
@[ext]
structure Ledger (Issuer Handle Id Digest Response : Type) where
  entries : Issuer → Id → Option (Retained Digest Response)
  charges : Handle → List (HandleCharge Issuer Id)
  /-- An answered document is not taken back. -/
  keepsAnswered : Bool

namespace Ledger

variable {Issuer Handle Id Digest Response : Type}

/-- Forget what is no longer retained at `now`. -/
def expire (ledger : Ledger Issuer Handle Id Digest Response) (now : DateTime) :
    Ledger Issuer Handle Id Digest Response where
  entries issuer id := (ledger.entries issuer id).filter fun entry => entry.live now
  charges handle :=
    (ledger.charges handle).filter fun charge => unexpired charge.retainUntil now
  keepsAnswered := ledger.keepsAnswered

theorem entries_of_expire {ledger : Ledger Issuer Handle Id Digest Response} {issuer : Issuer}
    {id : Id} {entry : Retained Digest Response} {now : DateTime}
    (found : (ledger.expire now).entries issuer id = some entry) :
    ledger.entries issuer id = some entry :=
  (Option.filter_eq_some_iff.mp found).1

section Operations

variable [DecidableEq Issuer] [DecidableEq Id]

/-- Enter a document as accepted, without a response yet. -/
def enter (ledger : Ledger Issuer Handle Id Digest Response) (issuer : Issuer) (id : Id)
    (digest : Digest) (retainUntil : Option DateTime) :
    Ledger Issuer Handle Id Digest Response :=
  { ledger with
    entries := fun other otherId =>
      if other = issuer ∧ otherId = id then some ⟨digest, none, retainUntil⟩
      else ledger.entries other otherId }

/-- Keep the response of an entered document. -/
def recordResponse (ledger : Ledger Issuer Handle Id Digest Response) (issuer : Issuer) (id : Id)
    (response : Response) : Ledger Issuer Handle Id Digest Response :=
  { ledger with
    entries := fun other otherId =>
      if other = issuer ∧ otherId = id then
        (ledger.entries other otherId).map fun entry => { entry with response := some response }
      else ledger.entries other otherId }

/-- Take an entered document back, unless it is one of those kept. -/
def withdraw [DecidableEq Digest] (ledger : Ledger Issuer Handle Id Digest Response)
    (issuer : Issuer) (id : Id) (digest : Digest) : Ledger Issuer Handle Id Digest Response :=
  { ledger with
    entries := fun other otherId =>
      if other = issuer ∧ otherId = id then
        (ledger.entries other otherId).filter fun entry =>
          !entry.releasedBy ledger.keepsAnswered digest
      else ledger.entries other otherId }

theorem recordResponse_of_absent {ledger : Ledger Issuer Handle Id Digest Response}
    {issuer : Issuer} {id : Id} (absent : ledger.entries issuer id = none) (response : Response) :
    ledger.recordResponse issuer id response = ledger := by
  apply Ledger.ext
  · funext other otherId
    simp only [recordResponse]
    split
    · rename_i same
      rw [same.1, same.2, absent]
      rfl
    · rfl
  · rfl
  · rfl

theorem withdraw_of_kept [DecidableEq Digest] {ledger : Ledger Issuer Handle Id Digest Response}
    {issuer : Issuer} {id : Id} {digest : Digest}
    (kept : ∀ entry, ledger.entries issuer id = some entry →
      entry.releasedBy ledger.keepsAnswered digest = false) :
    ledger.withdraw issuer id digest = ledger := by
  apply Ledger.ext
  · funext other otherId
    simp only [withdraw]
    split
    · rename_i same
      rw [same.1, same.2]
      cases found : ledger.entries issuer id with
      | none => rfl
      | some entry => simp [Option.filter_some, kept entry found]
    · rfl
  · rfl
  · rfl

variable [DecidableEq Handle]

/-- Charge a document to a handle. -/
def charge (ledger : Ledger Issuer Handle Id Digest Response) (handle : Handle) (issuer : Issuer)
    (id : Id) (retainUntil : Option DateTime) : Ledger Issuer Handle Id Digest Response :=
  { ledger with
    charges := fun other =>
      if other = handle then ledger.charges other ++ [⟨issuer, id, retainUntil⟩]
      else ledger.charges other }

/-- Take every charge for a document off a handle. -/
def uncharge (ledger : Ledger Issuer Handle Id Digest Response) (handle : Handle)
    (issuer : Issuer) (id : Id) : Ledger Issuer Handle Id Digest Response :=
  { ledger with
    charges := fun other =>
      if other = handle then
        (ledger.charges other).filter fun charge =>
          !(decide (charge.issuer = issuer) && decide (charge.id = id))
      else ledger.charges other }

/-- Enter a document and charge it to its handle. -/
def accept (ledger : Ledger Issuer Handle Id Digest Response) (issuer : Issuer) (handle : Handle)
    (id : Id) (digest : Digest) (retainUntil : Option DateTime) :
    Ledger Issuer Handle Id Digest Response :=
  (ledger.enter issuer id digest retainUntil).charge handle issuer id retainUntil

/-- Close out a document, with its response or by taking it back. -/
def complete [DecidableEq Digest] (ledger : Ledger Issuer Handle Id Digest Response)
    (issuer : Issuer) (handle : Handle) (id : Id) (digest : Digest) :
    Option Response → Ledger Issuer Handle Id Digest Response
  | some response => ledger.recordResponse issuer id response
  | none => (ledger.uncharge handle issuer id).withdraw issuer id digest

/-- The answers a claim may give, with the ledger each of them leaves. -/
inductive Claimed (ledger : Ledger Issuer Handle Id Digest Response) (issuer : Issuer)
    (handle : Handle) (id : Id) (digest : Digest) (retainUntil : Option DateTime)
    (now : DateTime) :
    Except RejectReason (Admission Response) → Ledger Issuer Handle Id Digest Response → Prop
  | busy : Claimed ledger issuer handle id digest retainUntil now (.error busy) (ledger.expire now)
  | fresh (absent : (ledger.expire now).entries issuer id = none) :
      Claimed ledger issuer handle id digest retainUntil now (.ok .fresh)
        ((ledger.expire now).accept issuer handle id digest retainUntil)
  | answered (entry : Retained Digest Response) (prior : Response)
      (found : (ledger.expire now).entries issuer id = some entry)
      (same : entry.digest = digest) (response : entry.response = some prior) :
      Claimed ledger issuer handle id digest retainUntil now (.ok (.answered prior))
        (ledger.expire now)
  | inFlight (entry : Retained Digest Response)
      (found : (ledger.expire now).entries issuer id = some entry)
      (same : entry.digest = digest) (unanswered : entry.response = none) :
      Claimed ledger issuer handle id digest retainUntil now (.error alreadyAccepted)
        (ledger.expire now)
  | conflict (entry : Retained Digest Response)
      (found : (ledger.expire now).entries issuer id = some entry)
      (different : entry.digest ≠ digest) :
      Claimed ledger issuer handle id digest retainUntil now (.error .idConflict)
        (ledger.expire now)

/-- A claim answered otherwise than fresh only expires the ledger. -/
theorem Claimed.ledger_of_not_fresh {ledger after : Ledger Issuer Handle Id Digest Response}
    {issuer : Issuer} {handle : Handle} {id : Id} {digest : Digest}
    {retainUntil : Option DateTime} {now : DateTime}
    {result : Except RejectReason (Admission Response)}
    (claimed : ledger.Claimed issuer handle id digest retainUntil now result after)
    (stale : result ≠ .ok .fresh) : after = ledger.expire now := by
  cases claimed with
  | busy => rfl
  | fresh => exact absurd rfl stale
  | answered => rfl
  | inFlight => rfl
  | conflict => rfl

/-- A fresh claim found no live entry, and enters one. -/
theorem Claimed.of_fresh {ledger after : Ledger Issuer Handle Id Digest Response}
    {issuer : Issuer} {handle : Handle} {id : Id} {digest : Digest}
    {retainUntil : Option DateTime} {now : DateTime}
    (claimed : ledger.Claimed issuer handle id digest retainUntil now (.ok .fresh) after) :
    (ledger.expire now).entries issuer id = none ∧
      after = (ledger.expire now).accept issuer handle id digest retainUntil := by
  cases claimed with
  | fresh absent => exact ⟨absent, rfl⟩

/-- A claim answered with a response found the entry which keeps it. -/
theorem Claimed.of_answered {ledger after : Ledger Issuer Handle Id Digest Response}
    {issuer : Issuer} {handle : Handle} {id : Id} {digest : Digest}
    {retainUntil : Option DateTime} {now : DateTime} {prior : Response}
    (claimed : ledger.Claimed issuer handle id digest retainUntil now (.ok (.answered prior))
      after) :
    ∃ entry, after.entries issuer id = some entry ∧ entry.digest = digest := by
  cases claimed with
  | answered entry prior found same => exact ⟨entry, found, same⟩

/-! ## Where an entry comes from -/

variable {ledger : Ledger Issuer Handle Id Digest Response} {issuer other : Issuer}
  {handle : Handle} {id otherId : Id} {digest : Digest} {retainUntil : Option DateTime}
  {entry : Retained Digest Response}

theorem entries_accept_cases
    (found : (ledger.accept issuer handle id digest retainUntil).entries other otherId =
      some entry) :
    ledger.entries other otherId = some entry ∨
      other = issuer ∧ otherId = id ∧ entry = ⟨digest, none, retainUntil⟩ := by
  simp only [accept, charge, enter] at found
  split at found
  · rename_i own
    exact .inr ⟨own.1, own.2, (Option.some.inj found).symm⟩
  · exact .inl found

theorem entries_complete_cases [DecidableEq Digest] {response : Option Response}
    (found : (ledger.complete issuer handle id digest response).entries other otherId =
      some entry) :
    ledger.entries other otherId = some entry ∨
      other = issuer ∧ otherId = id ∧ ∃ kept before, response = some kept ∧
        ledger.entries other otherId = some before ∧
        entry = { before with response := some kept } := by
  cases response with
  | some kept =>
      simp only [complete, recordResponse] at found
      split at found
      · rename_i own
        obtain ⟨before, present, rfl⟩ := Option.map_eq_some_iff.mp found
        exact .inr ⟨own.1, own.2, kept, before, rfl, present, rfl⟩
      · exact .inl found
  | none =>
      simp only [complete, withdraw, uncharge] at found
      split at found
      · exact .inl (Option.filter_eq_some_iff.mp found).1
      · exact .inl found

/-- The response which a claim is answered with was kept for its document. -/
theorem Claimed.entered {after : Ledger Issuer Handle Id Digest Response} {now : DateTime}
    {prior : Response} (claimed : ledger.Claimed issuer handle id digest retainUntil now
      (.ok (.answered prior)) after) :
    ∃ entry, ledger.entries issuer id = some entry ∧ entry.digest = digest ∧
      entry.response = some prior := by
  cases claimed with
  | answered entry prior found same response =>
      exact ⟨entry, entries_of_expire found, same, response⟩

end Operations

/-! ## What every entry satisfies -/

/-- Every entry's digest and retention are related. -/
def Each (related : Digest → Option DateTime → Prop)
    (ledger : Ledger Issuer Handle Id Digest Response) : Prop :=
  ∀ issuer id entry, ledger.entries issuer id = some entry →
    related entry.digest entry.retainUntil

namespace Each

variable {related : Digest → Option DateTime → Prop}
  {ledger : Ledger Issuer Handle Id Digest Response} {issuer : Issuer} {handle : Handle} {id : Id}
  {digest : Digest} {retainUntil : Option DateTime}

theorem of_entries_eq {later : Ledger Issuer Handle Id Digest Response}
    (each : ledger.Each related) (same : later.entries = ledger.entries) : later.Each related := by
  intro issuer id entry found
  exact each issuer id entry (same ▸ found)

theorem expire (each : ledger.Each related) (now : DateTime) :
    (ledger.expire now).Each related := by
  intro issuer id entry found
  exact each issuer id entry (Option.filter_eq_some_iff.mp found).1

variable [DecidableEq Issuer] [DecidableEq Id]

theorem enter (each : ledger.Each related) (entering : related digest retainUntil)
    (issuer : Issuer) (id : Id) : (ledger.enter issuer id digest retainUntil).Each related := by
  intro other otherId entry found
  simp only [Ledger.enter] at found
  split at found
  · cases found
    exact entering
  · exact each other otherId entry found

theorem recordResponse (each : ledger.Each related) (issuer : Issuer) (id : Id)
    (response : Response) : (ledger.recordResponse issuer id response).Each related := by
  intro other otherId entry found
  simp only [Ledger.recordResponse] at found
  split at found
  · obtain ⟨stored, present, rfl⟩ := Option.map_eq_some_iff.mp found
    exact each other otherId stored present
  · exact each other otherId entry found

theorem withdraw [DecidableEq Digest] (each : ledger.Each related) (issuer : Issuer) (id : Id)
    (digest : Digest) : (ledger.withdraw issuer id digest).Each related := by
  intro other otherId entry found
  simp only [Ledger.withdraw] at found
  split at found
  · exact each other otherId entry (Option.filter_eq_some_iff.mp found).1
  · exact each other otherId entry found

variable [DecidableEq Handle]

theorem claimed {after : Ledger Issuer Handle Id Digest Response} {now : DateTime}
    {result : Except RejectReason (Admission Response)} (each : ledger.Each related)
    (entering : related digest retainUntil)
    (claimed : ledger.Claimed issuer handle id digest retainUntil now result after) :
    after.Each related := by
  have expired := each.expire now
  cases claimed with
  | busy => exact expired
  | fresh absent => exact (expired.enter entering issuer id).of_entries_eq rfl
  | answered => exact expired
  | inFlight => exact expired
  | conflict => exact expired

theorem complete [DecidableEq Digest] (each : ledger.Each related) (response : Option Response) :
    (ledger.complete issuer handle id digest response).Each related := by
  cases response with
  | some response => exact each.recordResponse issuer id response
  | none => exact Each.withdraw (each.of_entries_eq rfl) issuer id digest

end Each

end Ledger

namespace ReplayRecord

variable {Guard Issuer Handle Id Digest Response : Type} [ReplayGuard Guard Id Digest Response]

/-- The entry a record keeps for an issuer's identifier. -/
def entry [DecidableEq Issuer] (record : ReplayRecord Guard Issuer Handle Id) (issuer : Issuer)
    (id : Id) : Option (Retained Digest Response) :=
  (record.issuers.lookup issuer).bind fun arc => retained (record.guards arc) id

/-- The ledger of a record. -/
def ledger [DecidableEq Issuer] [DecidableEq Handle]
    (record : ReplayRecord Guard Issuer Handle Id) :
    Ledger Issuer Handle Id Digest Response where
  entries := record.entry
  charges := record.charges
  keepsAnswered := keepsAnswered Guard

/-- The addresses in the map are distinct and allocated, and every allocated guard has the
capacity it was built with. -/
structure WellFormed (bounds : Bounds) (record : ReplayRecord Guard Issuer Handle Id) : Prop where
  arcs_nodup : record.issuers.values.Nodup
  arcs_lt : ∀ arc ∈ record.issuers.values, arc < record.nextArc
  capacity_eq : ∀ arc < record.nextArc, capacity (record.guards arc) = bounds.perIssuer + 1

section Charges

variable [DecidableEq Handle] (record : ReplayRecord Guard Issuer Handle Id)

theorem charges_charge (handle : Handle) (issuer : Issuer) (id : Id)
    (retainUntil : Option DateTime) (other : Handle) :
    (record.charge handle issuer id retainUntil).charges other =
      if other = handle then record.charges other ++ [⟨issuer, id, retainUntil⟩]
      else record.charges other := by
  simp only [charge, charges, AssocMap.lookup_insert]
  split
  · rename_i same
    rw [same]
    rfl
  · rfl

theorem charges_uncharge [DecidableEq Issuer] [DecidableEq Id] (handle : Handle)
    (issuer : Issuer) (id : Id) (other : Handle) :
    (record.uncharge handle issuer id).charges other =
      if other = handle then
        (record.charges other).filter fun charge =>
          !(decide (charge.issuer = issuer) && decide (charge.id = id))
      else record.charges other := by
  simp only [uncharge, charges, AssocMap.lookup_modify]
  split <;> cases record.handles.lookup other <;> simp

theorem charges_purge (now : DateTime) (handle : Handle) :
    (record.purge now).charges handle =
      (record.charges handle).filter fun charge => unexpired charge.retainUntil now := by
  simp only [purge, charges, AssocMap.lookup_retain, AssocMap.lookup_mapValues]
  cases record.handles.lookup handle with
  | none => rfl
  | some charges =>
      cases kept : charges.filter fun charge => unexpired charge.retainUntil now with
      | nil => simp [kept, Option.filter]
      | cons head tail => simp [kept, Option.filter]

end Charges

/-! ## Well-formed records -/

section WellFormed

theorem new_wellFormed (bounds : Bounds) :
    (new : ReplayRecord Guard Issuer Handle Id).WellFormed bounds where
  arcs_nodup := List.nodup_nil
  arcs_lt arc member := by cases member
  capacity_eq arc below := absurd below (Nat.not_lt_zero arc)

theorem setGuard_wellFormed {bounds : Bounds} {record : ReplayRecord Guard Issuer Handle Id}
    (wellFormed : record.WellFormed bounds) {arc : Arc} {guard : Guard}
    (capacity : capacity guard = capacity (record.guards arc)) :
    (record.setGuard arc guard).WellFormed bounds where
  arcs_nodup := wellFormed.arcs_nodup
  arcs_lt := wellFormed.arcs_lt
  capacity_eq other below := by
    by_cases same : other = arc
    · subst same
      simpa [setGuard, capacity] using wellFormed.capacity_eq other below
    · simpa [setGuard, Function.update_of_ne same] using wellFormed.capacity_eq other below

theorem charge_wellFormed [DecidableEq Handle] {bounds : Bounds}
    {record : ReplayRecord Guard Issuer Handle Id} (wellFormed : record.WellFormed bounds)
    (handle : Handle) (issuer : Issuer) (id : Id) (retainUntil : Option DateTime) :
    (record.charge handle issuer id retainUntil).WellFormed bounds :=
  ⟨wellFormed.arcs_nodup, wellFormed.arcs_lt, wellFormed.capacity_eq⟩

theorem uncharge_wellFormed [DecidableEq Issuer] [DecidableEq Handle] [DecidableEq Id]
    {bounds : Bounds} {record : ReplayRecord Guard Issuer Handle Id}
    (wellFormed : record.WellFormed bounds) (handle : Handle) (issuer : Issuer) (id : Id) :
    (record.uncharge handle issuer id).WellFormed bounds :=
  ⟨wellFormed.arcs_nodup, wellFormed.arcs_lt, wellFormed.capacity_eq⟩

variable [LawfulReplayGuard Guard]

theorem retained_purgedGuards (record : ReplayRecord Guard Issuer Handle Id) (now : DateTime)
    {arc : Arc} (member : arc ∈ record.issuers.values) (id : Id) :
    retained (record.purgedGuards now arc) id =
      (retained (record.guards arc) id).filter fun entry => entry.live now := by
  rw [purgedGuards, if_pos member, LawfulReplayGuard.retained_purgeExpired]

theorem purge_wellFormed {bounds : Bounds} {record : ReplayRecord Guard Issuer Handle Id}
    (wellFormed : record.WellFormed bounds) (now : DateTime) :
    (record.purge now).WellFormed bounds where
  arcs_nodup := wellFormed.arcs_nodup.sublist (AssocMap.values_retain_sublist _ _)
  arcs_lt arc member :=
    wellFormed.arcs_lt arc ((AssocMap.values_retain_sublist _ _).subset member)
  capacity_eq arc below := by
    simp only [purge, purgedGuards]
    split
    · rw [LawfulReplayGuard.capacity_purgeExpired]
      exact wellFormed.capacity_eq arc below
    · exact wellFormed.capacity_eq arc below

theorem claimGuard_wellFormed {bounds : Bounds} {record : ReplayRecord Guard Issuer Handle Id}
    (wellFormed : record.WellFormed bounds) (arc : Arc) (id : Id) (digest : Digest)
    (retainUntil : Option DateTime) (now : DateTime) :
    (record.claimGuard arc id digest retainUntil now).2.WellFormed bounds :=
  setGuard_wellFormed wellFormed (LawfulReplayGuard.capacity_claim _ _ _ _ _)

theorem closeOut_wellFormed {bounds : Bounds} {record : ReplayRecord Guard Issuer Handle Id}
    (wellFormed : record.WellFormed bounds) (arc : Arc) (id : Id) (digest : Digest)
    (response : Option Response) : (record.closeOut arc id digest response).WellFormed bounds := by
  cases response with
  | none => exact setGuard_wellFormed wellFormed (LawfulReplayGuard.capacity_release _ _ _)
  | some response =>
      exact setGuard_wellFormed wellFormed (LawfulReplayGuard.capacity_recordResponse _ _ _)

end WellFormed

/-! ## Entries -/

section Lawful

theorem totalHeld_purge (record : ReplayRecord Guard Issuer Handle Id) (now : DateTime) :
    (record.purge now).totalHeld =
      record.issuers.total fun arc => len (record.purgedGuards now arc) := by
  apply AssocMap.total_retain
  intro issuer arc dropped
  simpa [purge] using dropped

variable [DecidableEq Issuer]

theorem entry_of_lookup {record : ReplayRecord Guard Issuer Handle Id} {issuer : Issuer}
    {arc : Arc} (found : record.issuers.lookup issuer = some arc) (id : Id) :
    record.entry issuer id = retained (record.guards arc) id := by
  simp [entry, found]

theorem entry_of_absent {record : ReplayRecord Guard Issuer Handle Id} {issuer : Issuer}
    (absent : record.issuers.lookup issuer = none) (id : Id) : record.entry issuer id = none := by
  simp [entry, absent]

theorem WellFormed.issuer_unique {bounds : Bounds} {record : ReplayRecord Guard Issuer Handle Id}
    (wellFormed : record.WellFormed bounds) {issuer other : Issuer} {arc : Arc}
    (found : record.issuers.lookup issuer = some arc)
    (found' : record.issuers.lookup other = some arc) : other = issuer := by
  have equal := List.inj_on_of_nodup_map wellFormed.arcs_nodup
    (AList.mem_lookup_iff.mp found') (AList.mem_lookup_iff.mp found) rfl
  exact congrArg Sigma.fst equal

theorem WellFormed.lookup_lt {bounds : Bounds} {record : ReplayRecord Guard Issuer Handle Id}
    (wellFormed : record.WellFormed bounds) {issuer : Issuer} {arc : Arc}
    (found : record.issuers.lookup issuer = some arc) : arc < record.nextArc :=
  wellFormed.arcs_lt arc ((AssocMap.mem_values_iff _ _).mpr ⟨issuer, found⟩)

theorem lookup_setGuard {record : ReplayRecord Guard Issuer Handle Id} {issuer : Issuer}
    {arc : Arc} {held : Option Arc} (found : record.issuers.lookup issuer = held)
    (guard : Guard) : (record.setGuard arc guard).issuers.lookup issuer = held := found

/-- Replacing a guard which is not an issuer's own changes none of its entries. -/
theorem entry_setGuard_of_ne {record : ReplayRecord Guard Issuer Handle Id} {arc : Arc}
    {other : Issuer} (different : record.issuers.lookup other ≠ some arc) (guard : Guard)
    (id : Id) : (record.setGuard arc guard).entry other id = record.entry other id := by
  cases found : record.issuers.lookup other with
  | none =>
      rw [entry_of_absent found, entry_of_absent (lookup_setGuard found guard)]
  | some arc' =>
      have apart : arc' ≠ arc := by
        rintro rfl
        exact different found
      rw [entry_of_lookup found, entry_of_lookup (lookup_setGuard found guard)]
      simp [setGuard, Function.update_of_ne apart]

/-- Replacing an issuer's guard changes the entries of that issuer only. -/
theorem entry_setGuard {bounds : Bounds} {record : ReplayRecord Guard Issuer Handle Id}
    (wellFormed : record.WellFormed bounds) {issuer : Issuer} {arc : Arc}
    (found : record.issuers.lookup issuer = some arc) (guard : Guard) (other : Issuer) (id : Id) :
    (record.setGuard arc guard).entry other id =
      if other = issuer then retained guard id else record.entry other id := by
  split
  · rename_i same
    subst same
    rw [entry_of_lookup (lookup_setGuard found guard)]
    simp [setGuard]
  · rename_i different
    exact entry_setGuard_of_ne
      (fun other_found => different (wellFormed.issuer_unique found other_found)) guard id

/-- Closing out on a guard which has left the map changes no entry. -/
theorem entry_closeOut_of_dropped {record : ReplayRecord Guard Issuer Handle Id} {issuer : Issuer}
    {arc : Arc} (own : ∀ other, record.issuers.lookup other = some arc → other = issuer)
    (dropped : record.issuers.lookup issuer ≠ some arc) (id : Id) (digest : Digest)
    (response : Option Response) (other : Issuer) (otherId : Id) :
    (record.closeOut arc id digest response).entry other otherId = record.entry other otherId := by
  have unmapped : record.issuers.lookup other ≠ some arc := by
    intro found
    exact dropped (own other found ▸ found)
  cases response with
  | some response => exact entry_setGuard_of_ne unmapped _ otherId
  | none => exact entry_setGuard_of_ne unmapped _ otherId

theorem ledger_charge [DecidableEq Handle] (record : ReplayRecord Guard Issuer Handle Id)
    (handle : Handle) (issuer : Issuer) (id : Id) (retainUntil : Option DateTime) :
    (record.charge handle issuer id retainUntil).ledger =
      record.ledger.charge handle issuer id retainUntil := by
  apply Ledger.ext
  · rfl
  · funext other
    exact record.charges_charge handle issuer id retainUntil other
  · rfl

theorem ledger_uncharge [DecidableEq Handle] [DecidableEq Id]
    (record : ReplayRecord Guard Issuer Handle Id) (handle : Handle)
    (issuer : Issuer) (id : Id) :
    (record.uncharge handle issuer id).ledger = record.ledger.uncharge handle issuer id := by
  apply Ledger.ext
  · rfl
  · funext other
    exact record.charges_uncharge handle issuer id other
  · rfl

/-- A partition leaves the purged record, or opens the issuer's partition in it. -/
theorem partition_record [DecidableEq Handle] (bounds : Bounds)
    (record : ReplayRecord Guard Issuer Handle Id) (issuer : Issuer) (handle : Handle)
    (now : DateTime) :
    (record.partition bounds issuer handle now).2 = record.purge now ∨
      ((record.purge now).issuers.lookup issuer = none ∧
        (record.partition bounds issuer handle now).2 =
          (record.purge now).openPartition bounds issuer) := by
  have opened : ((record.purge now).entryOrInsert bounds issuer).2 = record.purge now ∨
      ((record.purge now).issuers.lookup issuer = none ∧
        ((record.purge now).entryOrInsert bounds issuer).2 =
          (record.purge now).openPartition bounds issuer) := by
    rw [entryOrInsert]
    split
    · exact .inl rfl
    · rename_i absent
      exact .inr ⟨absent, rfl⟩
  rw [partition]
  split
  · exact .inl rfl
  · simp only
    split <;> exact opened

variable [LawfulReplayGuard Guard]

/-- The verdict on a claim, read from what the record keeps. -/
theorem claimGuard_verdict [DecidableEq Digest] {record : ReplayRecord Guard Issuer Handle Id}
    {issuer : Issuer} {arc : Arc} {now : DateTime}
    (live : ∀ other entry, record.entry issuer other = some entry → entry.live now)
    (found : record.issuers.lookup issuer = some arc) (id : Id) (digest : Digest)
    (retainUntil : Option DateTime) :
    (record.claimGuard arc id digest retainUntil now).1 =
      match record.entry issuer id with
      | none => .fresh
      | some entry => if entry.digest = digest then .duplicate entry.response else .conflict := by
  simp only [entry_of_lookup found] at live ⊢
  cases kept : retained (record.guards arc) id with
  | none => exact LawfulReplayGuard.claim_absent _ id digest retainUntil now kept
  | some entry =>
      by_cases same : entry.digest = digest
      · simp only [same, if_true]
        exact LawfulReplayGuard.claim_duplicate _ id digest retainUntil now entry kept
          (live id entry kept) same
      · simp only [same, if_false]
        exact LawfulReplayGuard.claim_conflict _ id digest retainUntil now entry kept
          (live id entry kept) same

/-! ## Purging -/

theorem entry_purge (record : ReplayRecord Guard Issuer Handle Id) (now : DateTime)
    (issuer : Issuer) (id : Id) :
    (record.purge now).entry issuer id =
      (record.entry issuer id).filter fun entry => entry.live now := by
  cases found : record.issuers.lookup issuer with
  | none =>
      have gone : (record.purge now).issuers.lookup issuer = none := by
        simp [purge, AssocMap.lookup_retain, found]
      rw [entry_of_absent gone, entry_of_absent found]
      rfl
  | some arc =>
      have member := (AssocMap.mem_values_iff record.issuers arc).mpr ⟨issuer, found⟩
      rw [entry_of_lookup found, ← retained_purgedGuards record now member]
      by_cases empty : len (record.purgedGuards now arc) = 0
      · have gone : (record.purge now).issuers.lookup issuer = none := by
          simp [purge, AssocMap.lookup_retain, found, empty]
        rw [entry_of_absent gone, (len_eq_zero_iff _).mp empty]
      · have kept : (record.purge now).issuers.lookup issuer = some arc := by
          simp [purge, AssocMap.lookup_retain, found, empty]
        rw [entry_of_lookup kept]
        rfl

/-! ## Partitions -/

theorem openPartition_wellFormed {bounds : Bounds}
    {record : ReplayRecord Guard Issuer Handle Id} (wellFormed : record.WellFormed bounds)
    {issuer : Issuer} (absent : record.issuers.lookup issuer = none) :
    (record.openPartition bounds issuer).WellFormed bounds where
  arcs_nodup := by
    rw [openPartition, AssocMap.values_insert _ absent]
    refine List.nodup_cons.mpr ⟨fun member => ?_, wellFormed.arcs_nodup⟩
    exact absurd (wellFormed.arcs_lt _ member) (lt_irrefl _)
  arcs_lt arc member := by
    rw [openPartition, AssocMap.values_insert _ absent] at member
    rcases List.mem_cons.mp member with rfl | member
    · exact Nat.lt_succ_self _
    · exact (wellFormed.arcs_lt arc member).trans (Nat.lt_succ_self _)
  capacity_eq arc below := by
    simp only [openPartition] at below ⊢
    by_cases same : arc = record.nextArc
    · rw [same, Function.update_self, LawfulReplayGuard.capacity_new]
    · rw [Function.update_of_ne same]
      exact wellFormed.capacity_eq arc (lt_of_le_of_ne (Nat.le_of_lt_succ below) same)

theorem entry_openPartition {bounds : Bounds} {record : ReplayRecord Guard Issuer Handle Id}
    (wellFormed : record.WellFormed bounds) {issuer : Issuer}
    (absent : record.issuers.lookup issuer = none) (other : Issuer) (id : Id) :
    (record.openPartition bounds issuer).entry other id = record.entry other id := by
  simp only [entry, openPartition, AssocMap.lookup_insert]
  split
  · rename_i same
    rw [same, absent, Option.bind_some, Function.update_self, LawfulReplayGuard.retained_new]
    rfl
  · cases found : record.issuers.lookup other with
    | none => rfl
    | some arc =>
        have different : arc ≠ record.nextArc := (wellFormed.lookup_lt found).ne
        simp [Function.update_of_ne different]

/-- A new partition holds nothing. -/
theorem len_openPartition (bounds : Bounds) (record : ReplayRecord Guard Issuer Handle Id)
    (issuer : Issuer) : len ((record.openPartition bounds issuer).guards record.nextArc) = 0 := by
  simp only [openPartition, Function.update_self, len_new]

/-- A new partition is empty, so that the issuer's holding is the same before and after it is
opened. -/
theorem len_entryOrInsert (bounds : Bounds) (record : ReplayRecord Guard Issuer Handle Id)
    (issuer : Issuer) :
    len ((record.entryOrInsert bounds issuer).2.guards (record.entryOrInsert bounds issuer).1) =
      record.heldBy issuer := by
  rw [entryOrInsert, heldBy]
  cases record.issuers.lookup issuer with
  | none => exact len_openPartition bounds record issuer
  | some arc => rfl

theorem totalHeld_openPartition {bounds : Bounds} {record : ReplayRecord Guard Issuer Handle Id}
    (wellFormed : record.WellFormed bounds) {issuer : Issuer}
    (absent : record.issuers.lookup issuer = none) :
    (record.openPartition bounds issuer).totalHeld = record.totalHeld := by
  simp only [totalHeld, openPartition]
  rw [AssocMap.total_insert _ _ absent, Function.update_self, len_new, zero_add]
  apply AssocMap.total_congr
  intro arc member
  have different : arc ≠ record.nextArc := (wellFormed.arcs_lt arc member).ne
  rw [Function.update_of_ne different]

variable [DecidableEq Handle]

theorem ledger_purge (record : ReplayRecord Guard Issuer Handle Id) (now : DateTime) :
    (record.purge now).ledger = record.ledger.expire now := by
  apply Ledger.ext
  · funext issuer id
    exact record.entry_purge now issuer id
  · funext handle
    exact record.charges_purge now handle
  · rfl

/-- Opening a partition keeps the record well-formed, keeps its ledger, and gives the address
which the map now holds for the issuer. -/
theorem entryOrInsert_spec {bounds : Bounds} {record : ReplayRecord Guard Issuer Handle Id}
    (wellFormed : record.WellFormed bounds) (issuer : Issuer) :
    (record.entryOrInsert bounds issuer).2.WellFormed bounds ∧
      (record.entryOrInsert bounds issuer).2.ledger = record.ledger ∧
      (record.entryOrInsert bounds issuer).2.totalHeld = record.totalHeld ∧
      (record.entryOrInsert bounds issuer).2.issuers.lookup issuer =
        some (record.entryOrInsert bounds issuer).1 := by
  rw [entryOrInsert]
  split
  · rename_i arc found
    exact ⟨wellFormed, rfl, rfl, found⟩
  · rename_i absent
    refine ⟨openPartition_wellFormed wellFormed absent, ?_,
      totalHeld_openPartition wellFormed absent, AList.lookup_insert _⟩
    apply Ledger.ext
    · funext other id
      exact entry_openPartition wellFormed absent other id
    · rfl
    · rfl

/-- What a partition which admits the caller has established. -/
structure Opened (bounds : Bounds) (record : ReplayRecord Guard Issuer Handle Id)
    (issuer : Issuer) (handle : Handle) (arc : Arc) : Prop where
  found : record.issuers.lookup issuer = some arc
  held_lt : len (record.guards arc) < bounds.perIssuer
  charges_lt : (record.charges handle).length < bounds.perHandle
  total_lt : record.totalHeld < bounds.hardBound

/-- A partition only expires the ledger; it either refuses as busy or hands out the issuer's
address with room left in every budget. -/
theorem partition_spec {bounds : Bounds} {record : ReplayRecord Guard Issuer Handle Id}
    (wellFormed : record.WellFormed bounds) (issuer : Issuer) (handle : Handle) (now : DateTime) :
    (record.partition bounds issuer handle now).2.WellFormed bounds ∧
      (record.partition bounds issuer handle now).2.ledger = record.ledger.expire now ∧
      ((record.partition bounds issuer handle now).1 = .error busy ∨
        ∃ arc, (record.partition bounds issuer handle now).1 = .ok arc ∧
          (record.partition bounds issuer handle now).2.Opened bounds issuer handle arc) := by
  have purgedWellFormed := purge_wellFormed wellFormed now
  obtain ⟨openedWellFormed, openedLedger, openedTotal, found⟩ :=
    entryOrInsert_spec purgedWellFormed issuer
  have openedCharges : (((record.purge now).entryOrInsert bounds issuer).2.charges handle) =
      (record.purge now).charges handle :=
    congrArg (fun ledger => ledger.charges handle) openedLedger
  rw [partition]
  split
  · exact ⟨purgedWellFormed, record.ledger_purge now, .inl rfl⟩
  · rename_i chargesRoom
    simp only
    split
    · exact ⟨openedWellFormed, openedLedger.trans (record.ledger_purge now), .inl rfl⟩
    · rename_i room
      push Not at room
      refine ⟨openedWellFormed, openedLedger.trans (record.ledger_purge now), .inr
        ⟨_, rfl, found, room.1, ?_, ?_⟩⟩
      · rw [openedCharges]
        omega
      · rw [openedTotal, totalHeld_purge]
        exact room.2.1

/-! ## Claims and completions -/

variable [DecidableEq Id]

/-- Claiming an issuer's guard which has room and only live entries enters the document if its
identifier is absent, and otherwise changes nothing. -/
theorem ledger_claimGuard {bounds : Bounds} {record : ReplayRecord Guard Issuer Handle Id}
    (wellFormed : record.WellFormed bounds) {issuer : Issuer} {arc : Arc}
    (found : record.issuers.lookup issuer = some arc) {now : DateTime}
    (live : ∀ other entry, record.entry issuer other = some entry → entry.live now)
    (room : len (record.guards arc) < capacity (record.guards arc)) (id : Id) (digest : Digest)
    (retainUntil : Option DateTime) :
    (record.claimGuard arc id digest retainUntil now).2.ledger =
      if record.entry issuer id = none then record.ledger.enter issuer id digest retainUntil
      else record.ledger := by
  simp only [entry_of_lookup found] at live ⊢
  have claimed := retained_claim_of_live live room id digest retainUntil
  apply Ledger.ext
  · funext other otherId
    refine (entry_setGuard wellFormed found _ other otherId).trans ?_
    by_cases own : other = issuer
    · subst own
      rw [if_pos rfl]
      refine (claimed otherId).trans ?_
      by_cases absent : retained (record.guards arc) id = none
      · simp [absent, Ledger.enter, ledger, entry_of_lookup found]
      · simp [absent, ledger, entry_of_lookup found]
    · rw [if_neg own]
      split
      · simp [Ledger.enter, own, ledger]
      · rfl
  · split <;> rfl
  · split <;> rfl

/-- A claim on a well-formed record does to its ledger what the ledger's claim does. -/
theorem claim_refines [DecidableEq Digest] {bounds : Bounds}
    {record : ReplayRecord Guard Issuer Handle Id} (wellFormed : record.WellFormed bounds)
    (issuer : Issuer) (handle : Handle) (id : Id) (digest : Digest)
    (retainUntil : Option DateTime) (now : DateTime) :
    (record.claim bounds issuer handle id digest retainUntil now).2.WellFormed bounds ∧
      record.ledger.Claimed issuer handle id digest retainUntil now
        (record.claim bounds issuer handle id digest retainUntil now).1
        (record.claim bounds issuer handle id digest retainUntil now).2.ledger := by
  obtain ⟨openedWellFormed, openedLedger, answer⟩ := partition_spec wellFormed issuer handle now
  rw [claim]
  generalize record.partition bounds issuer handle now = opened at *
  obtain ⟨result, opened⟩ := opened
  rcases answer with refused | ⟨arc, allowed, open_⟩
  · cases refused
    exact ⟨openedWellFormed, openedLedger ▸ .busy⟩
  · cases allowed
    have entries : ∀ other, opened.entry issuer other =
        (record.ledger.expire now).entries issuer other := fun other =>
      congrArg (fun ledger => ledger.entries issuer other) openedLedger
    have live : ∀ other entry, opened.entry issuer other = some entry → entry.live now := by
      intro other entry found
      rw [entries] at found
      exact (Option.filter_eq_some_iff.mp found).2
    have room : len (opened.guards arc) < capacity (opened.guards arc) := by
      rw [openedWellFormed.capacity_eq arc (openedWellFormed.lookup_lt open_.found)]
      exact open_.held_lt.trans (Nat.lt_succ_self _)
    have claimedWellFormed :=
      claimGuard_wellFormed openedWellFormed arc id digest retainUntil now
    have claimedLedger :=
      ledger_claimGuard openedWellFormed open_.found live room id digest retainUntil
    have verdict := claimGuard_verdict live open_.found id digest retainUntil
    simp only
    generalize opened.claimGuard arc id digest retainUntil now = claimed at *
    obtain ⟨answered, claimed⟩ := claimed
    simp only [openedLedger, entries] at claimedLedger verdict
    cases found : (record.ledger.expire now).entries issuer id with
    | none =>
        simp only [found, if_true] at claimedLedger verdict
        subst verdict
        refine ⟨charge_wellFormed claimedWellFormed handle issuer id retainUntil, ?_⟩
        simp only [ledger_charge, claimedLedger]
        exact .fresh found
    | some entry =>
        simp only [found, reduceCtorEq, if_false] at claimedLedger verdict
        by_cases same : entry.digest = digest
        · rw [if_pos same] at verdict
          subst verdict
          cases response : entry.response with
          | none =>
              exact ⟨claimedWellFormed, claimedLedger ▸ .inFlight entry found same response⟩
          | some prior =>
              exact ⟨claimedWellFormed, claimedLedger ▸ .answered entry prior found same response⟩
        · rw [if_neg same] at verdict
          subst verdict
          exact ⟨claimedWellFormed, claimedLedger ▸ .conflict entry found same⟩

theorem ledger_closeOut [DecidableEq Digest] {bounds : Bounds}
    {record : ReplayRecord Guard Issuer Handle Id} (wellFormed : record.WellFormed bounds)
    {issuer : Issuer} {arc : Arc} (found : record.issuers.lookup issuer = some arc) (id : Id)
    (digest : Digest) (response : Option Response) :
    (record.closeOut arc id digest response).ledger =
      match response with
      | some response => record.ledger.recordResponse issuer id response
      | none => record.ledger.withdraw issuer id digest := by
  cases response with
  | some response =>
      apply Ledger.ext
      · funext other otherId
        refine (entry_setGuard wellFormed found _ other otherId).trans ?_
        by_cases own : other = issuer
        · subst own
          by_cases same : otherId = id
          · subst same
            simp [Ledger.recordResponse, ledger, entry_of_lookup found,
              LawfulReplayGuard.recordResponse_same]
          · simp [Ledger.recordResponse, ledger, entry_of_lookup found, same,
              LawfulReplayGuard.recordResponse_other _ _ _ _ same]
        · simp [Ledger.recordResponse, ledger, own]
      · rfl
      · rfl
  | none =>
      apply Ledger.ext
      · funext other otherId
        refine (entry_setGuard wellFormed found _ other otherId).trans ?_
        by_cases own : other = issuer
        · subst own
          simp only [Ledger.withdraw, ledger, entry_of_lookup found, if_true, true_and]
          exact retained_release (record.guards arc) id digest otherId
        · simp [Ledger.withdraw, ledger, own]
      · rfl
      · rfl

/-- A completion of a well-formed record does to its ledger what the ledger's completion does. -/
theorem complete_refines [DecidableEq Digest] {bounds : Bounds}
    {record : ReplayRecord Guard Issuer Handle Id} (wellFormed : record.WellFormed bounds)
    (issuer : Issuer) (handle : Handle) (id : Id) (digest : Digest) (response : Option Response) :
    (record.complete issuer handle id digest response).WellFormed bounds ∧
      (record.complete issuer handle id digest response).ledger =
        record.ledger.complete issuer handle id digest response := by
  rw [complete]
  cases response with
  | some response =>
      simp only [Option.isNone_some, Bool.false_eq_true, if_false]
      split
      · rename_i absent
        refine ⟨wellFormed, (Ledger.recordResponse_of_absent ?_ response).symm⟩
        exact entry_of_absent absent id
      · rename_i arc found
        exact ⟨closeOut_wellFormed wellFormed arc id digest _,
          ledger_closeOut wellFormed found id digest _⟩
  | none =>
      have unchargedWellFormed := uncharge_wellFormed wellFormed handle issuer id
      simp only [Option.isNone_none, if_true, Ledger.complete, ← ledger_uncharge]
      split
      · rename_i absent
        refine ⟨unchargedWellFormed, (Ledger.withdraw_of_kept fun entry kept => ?_).symm⟩
        cases (entry_of_absent absent id).symm.trans kept
      · rename_i arc found
        exact ⟨closeOut_wellFormed unchargedWellFormed arc id digest none,
          ledger_closeOut unchargedWellFormed found id digest none⟩

end Lawful

end ReplayRecord

end PushGateway
