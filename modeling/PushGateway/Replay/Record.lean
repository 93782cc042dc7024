import Mathlib.Logic.Function.Basic
import PushGateway.Replay.Guard

/-!
# The replay record

The record of accepted document identifiers: one guard for each issuer behind a shared address,
and for each handle the records charged to it.  A partition hands out the address of the issuer's
guard after every budget has been checked; the guard is then claimed and the handle charged in
steps of their own, so the functions below are also the atomic steps of concurrent callers.
-/

namespace PushGateway

open ReplayGuard

/-- What the record says about a document offered for execution. -/
inductive Admission (Response : Type) where
  /-- Not seen before; now claimed. -/
  | fresh
  /-- Already executed; answer with this response. -/
  | answered (prior : Response)
  deriving DecidableEq, Repr

/-- The three budgets, which `with_per_handle` asserts to be non-zero. -/
structure Bounds where
  perIssuer : Nat
  perHandle : Nat
  total : Nat
  perIssuer_pos : 0 < perIssuer
  perHandle_pos : 0 < perHandle
  total_pos : 0 < total

/-- `ReplayRecord::default()`: `DEFAULT_PER_ISSUER`, `DEFAULT_PER_HANDLE` and `DEFAULT_TOTAL`. -/
def Bounds.default : Bounds where
  perIssuer := 8192
  perHandle := 512
  total := 65536
  perIssuer_pos := by decide
  perHandle_pos := by decide
  total_pos := by decide

/-- The largest `usize`. -/
def usizeMax : Nat := 2 ^ 64 - 1

/-- `self.total.saturating_mul(2)`. -/
def Bounds.hardBound (bounds : Bounds) : Nat := min (bounds.total * 2) usizeMax

/-- One record charged to a handle. -/
structure HandleCharge (Issuer Id : Type) where
  issuer : Issuer
  id : Id
  retainUntil : Option DateTime
  deriving DecidableEq, Repr

/-- The address of a shared guard. -/
abbrev Arc := Nat

/-- The record, with the guards its addresses point to. -/
structure ReplayRecord (Guard Issuer Handle Id : Type) where
  issuers : AssocMap Issuer Arc
  handles : AssocMap Handle (List (HandleCharge Issuer Id))
  guards : Arc → Guard
  nextArc : Arc

/-- `busy()`. -/
def busy : RejectReason :=
  .taskFailed "too many documents accepted in the current window; retry later"

/-- The refusal of a document which is in flight, or completed without a recorded response. -/
def alreadyAccepted : RejectReason := .taskFailed "this document has already been accepted"

/-- How `claim` reads the guard's verdict. -/
def admission {Response : Type} :
    ReplayVerdict Response → Except RejectReason (Admission Response)
  | .fresh => .ok .fresh
  | .duplicate (some prior) => .ok (.answered prior)
  | .duplicate none => .error alreadyAccepted
  | .conflict => .error .idConflict
  | .unavailable => .error busy

namespace ReplayRecord

variable {Guard Issuer Handle Id Digest Response : Type}

section Budgets

variable [ReplayGuard Guard Id Digest Response]

/-- An empty record. -/
def new : ReplayRecord Guard Issuer Handle Id where
  issuers := ∅
  handles := ∅
  guards _ := ReplayGuard.new 0
  nextArc := 0

/-- The guards after `g.purge_expired(now)` on every partition. -/
def purgedGuards (record : ReplayRecord Guard Issuer Handle Id) (now : DateTime) : Arc → Guard :=
  fun arc =>
    if arc ∈ record.issuers.values then purgeExpired (record.guards arc) now
    else record.guards arc

/-- The two `retain` passes of `partition`: expired records and empty partitions are dropped. -/
def purge (record : ReplayRecord Guard Issuer Handle Id) (now : DateTime) :
    ReplayRecord Guard Issuer Handle Id where
  issuers := record.issuers.retain fun _ arc => decide (len (record.purgedGuards now arc) ≠ 0)
  handles :=
    (record.handles.mapValues fun _ charges =>
      charges.filter fun charge => unexpired charge.retainUntil now).retain
        fun _ charges => !charges.isEmpty
  guards := record.purgedGuards now
  nextArc := record.nextArc

/-- The entries held over all issuers. -/
def totalHeld (record : ReplayRecord Guard Issuer Handle Id) : Nat :=
  record.issuers.total fun arc => len (record.guards arc)

end Budgets

variable [DecidableEq Issuer] [DecidableEq Handle] [DecidableEq Id]

/-- The entries which an issuer holds. -/
def heldBy [ReplayGuard Guard Id Digest Response] (record : ReplayRecord Guard Issuer Handle Id)
    (issuer : Issuer) : Nat :=
  (record.issuers.lookup issuer).elim 0 fun arc => len (record.guards arc)

/-- The records charged to a handle. -/
def charges (record : ReplayRecord Guard Issuer Handle Id) (handle : Handle) :
    List (HandleCharge Issuer Id) :=
  (record.handles.lookup handle).getD []

/-- Replace what an address points to. -/
def setGuard (record : ReplayRecord Guard Issuer Handle Id) (arc : Arc) (guard : Guard) :
    ReplayRecord Guard Issuer Handle Id :=
  { record with guards := Function.update record.guards arc guard }

def charge (record : ReplayRecord Guard Issuer Handle Id) (handle : Handle) (issuer : Issuer)
    (id : Id) (retainUntil : Option DateTime) : ReplayRecord Guard Issuer Handle Id :=
  { record with
    handles := AList.insert handle (record.charges handle ++ [⟨issuer, id, retainUntil⟩])
      record.handles }

def uncharge (record : ReplayRecord Guard Issuer Handle Id) (handle : Handle) (issuer : Issuer)
    (id : Id) : ReplayRecord Guard Issuer Handle Id :=
  { record with
    handles := record.handles.modify handle fun charges =>
      charges.filter fun charge => !(decide (charge.issuer = issuer) && decide (charge.id = id)) }

variable [ReplayGuard Guard Id Digest Response]

/-- A new partition for an issuer: the guard's capacity is one above the bound. -/
def openPartition (bounds : Bounds) (record : ReplayRecord Guard Issuer Handle Id)
    (issuer : Issuer) : ReplayRecord Guard Issuer Handle Id where
  issuers := AList.insert issuer record.nextArc record.issuers
  handles := record.handles
  guards := Function.update record.guards record.nextArc (ReplayGuard.new (bounds.perIssuer + 1))
  nextArc := record.nextArc + 1

/-- `entry(issuer).or_insert_with(..)`. -/
def entryOrInsert (bounds : Bounds) (record : ReplayRecord Guard Issuer Handle Id)
    (issuer : Issuer) : Arc × ReplayRecord Guard Issuer Handle Id :=
  match record.issuers.lookup issuer with
  | some arc => (arc, record)
  | none => (record.nextArc, record.openPartition bounds issuer)

/-- The issuers holding records, the caller included. -/
def active (record : ReplayRecord Guard Issuer Handle Id) (issuer : Issuer) : Nat :=
  record.issuers.size + if (record.issuers.lookup issuer).isSome then 0 else 1

/-- The issuer's partition, after checking every budget. -/
def partition (bounds : Bounds) (record : ReplayRecord Guard Issuer Handle Id) (issuer : Issuer)
    (handle : Handle) (now : DateTime) :
    Except RejectReason Arc × ReplayRecord Guard Issuer Handle Id :=
  let total := record.issuers.total fun arc => len (record.purgedGuards now arc)
  let purged := record.purge now
  if bounds.perHandle ≤ (purged.charges handle).length then
    (.error busy, purged)
  else
    let active := purged.active issuer
    let (arc, opened) := purged.entryOrInsert bounds issuer
    let held := len (opened.guards arc)
    let fairShare := max (bounds.total / max active 1) 1
    if bounds.perIssuer ≤ held ∨ bounds.hardBound ≤ total ∨
        (bounds.total ≤ total ∧ fairShare ≤ held) then
      (.error busy, opened)
    else
      (.ok arc, opened)

/-- `guard.claim(..)` on a shared guard. -/
def claimGuard (record : ReplayRecord Guard Issuer Handle Id) (arc : Arc) (id : Id)
    (digest : Digest) (retainUntil : Option DateTime) (now : DateTime) :
    ReplayVerdict Response × ReplayRecord Guard Issuer Handle Id :=
  let (verdict, guard) := ReplayGuard.claim (record.guards arc) id digest retainUntil now
  (verdict, record.setGuard arc guard)

/-- Claim `(issuer, id)` and charge it to the handle. -/
def claim (bounds : Bounds) (record : ReplayRecord Guard Issuer Handle Id) (issuer : Issuer)
    (handle : Handle) (id : Id) (digest : Digest) (retainUntil : Option DateTime)
    (now : DateTime) :
    Except RejectReason (Admission Response) × ReplayRecord Guard Issuer Handle Id :=
  match record.partition bounds issuer handle now with
  | (.error reason, record) => (.error reason, record)
  | (.ok arc, record) =>
      match record.claimGuard arc id digest retainUntil now with
      | (.fresh, record) => (.ok .fresh, record.charge handle issuer id retainUntil)
      | (verdict, record) => (admission verdict, record)

/-- The guard call which closes out a claim: keep the response, or release the claim. -/
def closeOut (record : ReplayRecord Guard Issuer Handle Id) (arc : Arc) (id : Id)
    (digest : Digest) : Option Response → ReplayRecord Guard Issuer Handle Id
  | some response => record.setGuard arc (recordResponse (record.guards arc) id response)
  | none => record.setGuard arc (release (record.guards arc) id digest)

/-- Close out a claim. -/
def complete (record : ReplayRecord Guard Issuer Handle Id) (issuer : Issuer) (handle : Handle)
    (id : Id) (digest : Digest) (response : Option Response) :
    ReplayRecord Guard Issuer Handle Id :=
  let record := if response.isNone then record.uncharge handle issuer id else record
  match record.issuers.lookup issuer with
  | none => record
  | some arc => record.closeOut arc id digest response

end ReplayRecord

end PushGateway
