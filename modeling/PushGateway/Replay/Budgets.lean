import PushGateway.Replay.AtMostOnce

/-!
# The budgets under concurrency

A partition checks the budgets and the record grows only later, so what the budgets bound is the
record together with the claims on their way into it.  In every interleaving whose partitions
find a budget full or room beside those claims, and drop no guard a claim holds, the budgets
hold at every point and an entry goes away only by its release or its expiry.
-/

namespace PushGateway

open ReplayGuard

variable {Guard Issuer Handle Id Digest Response : Type}

/-- The thread is a claim which has passed its partition and is not yet charged to its handle. -/
def Thread.pendingOn [DecidableEq Handle] (handle : Handle)
    (thread : Thread Issuer Handle Id Digest Response) : Bool :=
  match thread.call, thread.phase with
  | .claim _ other _ _ _ _, .holding _ => decide (other = handle)
  | .claim _ other _ _ _ _, .claimed => decide (other = handle)
  | _, _ => false

/-- The claims which hold this address. -/
def holders (threads : List (Thread Issuer Handle Id Digest Response)) (arc : Arc) : Nat :=
  threads.countP fun thread => decide (thread.held = some arc)

/-- The claims not yet charged to this handle. -/
def pending [DecidableEq Handle] (threads : List (Thread Issuer Handle Id Digest Response))
    (handle : Handle) : Nat :=
  threads.countP (Thread.pendingOn handle)

/-- The claims which hold any address. -/
def inFlight (threads : List (Thread Issuer Handle Id Digest Response)) : Nat :=
  threads.countP fun thread => thread.held.isSome

section Counts

variable {threads : List (Thread Issuer Handle Id Digest Response)} {index : Nat}
  {thread : Thread Issuer Handle Id Digest Response}

theorem holders_set (found : threads[index]? = some thread)
    (next : Thread Issuer Handle Id Digest Response) (arc : Arc) :
    holders (threads.set index next) arc + (if thread.held = some arc then 1 else 0) =
      holders threads arc + if next.held = some arc then 1 else 0 := by
  simpa [holders] using Execution.countP_set_add found next
    fun thread => decide (thread.held = some arc)

theorem pending_set [DecidableEq Handle] (found : threads[index]? = some thread)
    (next : Thread Issuer Handle Id Digest Response) (handle : Handle) :
    pending (threads.set index next) handle + (if thread.pendingOn handle then 1 else 0) =
      pending threads handle + if next.pendingOn handle then 1 else 0 :=
  Execution.countP_set_add found next _

theorem inFlight_set (found : threads[index]? = some thread)
    (next : Thread Issuer Handle Id Digest Response) :
    inFlight (threads.set index next) + (if thread.held.isSome then 1 else 0) =
      inFlight threads + if next.held.isSome then 1 else 0 :=
  Execution.countP_set_add found next _

end Counts

variable [ReplayGuard Guard Id Digest Response]

/-! ## What is held in all -/

namespace ReplayRecord

theorem len_purgedGuards_le [LawfulReplayGuard Guard]
    (record : ReplayRecord Guard Issuer Handle Id) (now : DateTime) (arc : Arc) :
    len (record.purgedGuards now arc) ≤ len (record.guards arc) := by
  rw [purgedGuards]
  split
  · exact len_purgeExpired_le _ now
  · exact le_rfl

theorem totalHeld_purge_le [LawfulReplayGuard Guard]
    (record : ReplayRecord Guard Issuer Handle Id) (now : DateTime) :
    (record.purge now).totalHeld ≤ record.totalHeld := by
  rw [totalHeld_purge]
  exact AssocMap.total_le_total fun arc _ => record.len_purgedGuards_le now arc

theorem totalHeld_setGuard_le {record : ReplayRecord Guard Issuer Handle Id} {arc : Arc}
    {guard : Guard} (shorter : len guard ≤ len (record.guards arc)) :
    (record.setGuard arc guard).totalHeld ≤ record.totalHeld := by
  apply AssocMap.total_le_total
  intro other _
  simp only [setGuard]
  by_cases same : other = arc
  · rw [same, Function.update_self]
    exact shorter
  · rw [Function.update_of_ne same]

end ReplayRecord

variable [DecidableEq Issuer]

/-- Replacing an issuer's guard changes the total by that guard alone. -/
theorem ReplayRecord.totalHeld_setGuard {bounds : Bounds}
    {record : ReplayRecord Guard Issuer Handle Id} (wellFormed : record.WellFormed bounds)
    {issuer : Issuer} {arc : Arc} (found : record.issuers.lookup issuer = some arc)
    (guard : Guard) :
    (record.setGuard arc guard).totalHeld + len (record.guards arc) =
      record.totalHeld + len guard := by
  have rest : AssocMap.total (fun other => len (Function.update record.guards arc guard other))
        (AList.erase issuer record.issuers) =
      AssocMap.total (fun other => len (record.guards other))
        (AList.erase issuer record.issuers) := by
    apply AssocMap.total_congr
    intro other member
    obtain ⟨owner, stored⟩ := (AssocMap.mem_values_iff _ _).mp member
    rw [AssocMap.lookup_erase] at stored
    have apart : other ≠ arc := by
      rintro rfl
      split at stored
      · cases stored
      · rename_i different
        exact different (wellFormed.issuer_unique found stored)
    rw [Function.update_of_ne apart]
  simp only [totalHeld, setGuard]
  rw [AssocMap.total_erase _ found, AssocMap.total_erase (fun other => len (record.guards other))
    found, rest, Function.update_self]
  omega

/-- No claim holds the address which the next partition will get. -/
theorem Pool.Anchored.holders_nextArc {bounds : Bounds}
    {pool : Pool Guard Issuer Handle Id Digest Response} (anchored : pool.Anchored bounds) :
    holders pool.threads pool.record.nextArc = 0 := by
  rw [holders, List.countP_eq_zero]
  intro thread member holds
  obtain ⟨call, phase⟩ := thread
  cases phase with
  | holding arc =>
      have found : pool.record.issuers.lookup call.issuer = some arc :=
        anchored.threads _ member
      have below := anchored.wellFormed.lookup_lt found
      simp only [Thread.held, decide_eq_true_eq, Option.some.injEq] at holds
      exact absurd below (holds ▸ lt_irrefl _)
  | begun => cases of_decide_eq_true holds
  | claimed => cases of_decide_eq_true holds
  | uncharged => cases of_decide_eq_true holds
  | located arc => cases of_decide_eq_true holds
  | returned => cases of_decide_eq_true holds

/-- The entry is still kept, with another response at most. -/
def ReplayRecord.StillKeeps (record : ReplayRecord Guard Issuer Handle Id) (issuer : Issuer)
    (id : Id) (entry : Retained Digest Response) : Prop :=
  ∃ later, record.entry issuer id = some later ∧ later.digest = entry.digest ∧
    later.retainUntil = entry.retainUntil

theorem ReplayRecord.stillKeeps_of_entry_eq {record : ReplayRecord Guard Issuer Handle Id}
    {issuer : Issuer} {id : Id} {entry : Retained Digest Response}
    (found : record.entry issuer id = some entry) : record.StillKeeps issuer id entry :=
  ⟨entry, found, rfl, rfl⟩

/-- A claim on a guard with room drops expired entries only. -/
theorem ReplayRecord.claimGuard_keeps [DecidableEq Id] [LawfulReplayGuard Guard] {bounds : Bounds}
    {record : ReplayRecord Guard Issuer Handle Id} (wellFormed : record.WellFormed bounds)
    {issuer : Issuer} {arc : Arc} (resolved : record.issuers.lookup issuer = some arc)
    (room : len (record.guards arc) ≤ bounds.perIssuer) (claimedId : Id) (digest : Digest)
    (retainUntil : Option DateTime) (now : DateTime) {other : Issuer} {id : Id}
    {entry : Retained Digest Response} (found : record.entry other id = some entry) :
    (record.claimGuard arc claimedId digest retainUntil now).2.StillKeeps other id entry ∨
      entry.live now = false := by
  cases live : entry.live now with
  | false => exact .inr rfl
  | true =>
      refine .inl (stillKeeps_of_entry_eq
        ((entry_setGuard wellFormed resolved _ other id).trans ?_))
      split
      · rename_i own
        subst own
        rw [entry_of_lookup resolved] at found
        by_cases same : id = claimedId
        · subst same
          exact LawfulReplayGuard.claim_keeps_own _ id digest retainUntil now entry found live
        · refine LawfulReplayGuard.claim_keeps _ claimedId digest retainUntil now id entry same
            found live (.inr ?_)
          rw [wellFormed.capacity_eq arc (wellFormed.lookup_lt resolved)]
          exact Nat.lt_succ_of_le room
      · exact found

variable [DecidableEq Handle]

/-! ## Room in the budgets -/

namespace ReplayRecord

/-- One of the budgets has no room for a claim. -/
def Full (bounds : Bounds) (record : ReplayRecord Guard Issuer Handle Id) (issuer : Issuer)
    (handle : Handle) : Prop :=
  bounds.perHandle ≤ (record.charges handle).length ∨ bounds.perIssuer ≤ record.heldBy issuer ∨
    bounds.hardBound ≤ record.totalHeld ∨
    (bounds.total ≤ record.totalHeld ∧
      max (bounds.total / max (record.active issuer) 1) 1 ≤ record.heldBy issuer)

/-- Every budget has room for one more claim beside those in flight. -/
def RoomBeside (bounds : Bounds) (record : ReplayRecord Guard Issuer Handle Id)
    (threads : List (Thread Issuer Handle Id Digest Response)) (issuer : Issuer)
    (handle : Handle) : Prop :=
  (∀ arc ∈ record.issuers.lookup issuer,
      len (record.guards arc) + holders threads arc < bounds.perIssuer) ∧
    (record.charges handle).length + pending threads handle < bounds.perHandle ∧
    record.totalHeld + inFlight threads < bounds.hardBound

/-- The budgets bound the record together with the claims on their way into it. -/
structure RoomFor (bounds : Bounds) (record : ReplayRecord Guard Issuer Handle Id)
    (threads : List (Thread Issuer Handle Id Digest Response)) : Prop where
  issuers : ∀ issuer arc, record.issuers.lookup issuer = some arc →
    len (record.guards arc) + holders threads arc ≤ bounds.perIssuer
  handles : ∀ handle, (record.charges handle).length + pending threads handle ≤ bounds.perHandle
  total : record.totalHeld + inFlight threads ≤ bounds.hardBound

namespace RoomFor

variable {bounds : Bounds} {record : ReplayRecord Guard Issuer Handle Id}
  {threads later : List (Thread Issuer Handle Id Digest Response)}

theorem mono (room : record.RoomFor bounds threads)
    (fewerHolders : ∀ arc, holders later arc ≤ holders threads arc)
    (fewerPending : ∀ handle, pending later handle ≤ pending threads handle)
    (fewerInFlight : inFlight later ≤ inFlight threads) : record.RoomFor bounds later where
  issuers issuer arc found :=
    (Nat.add_le_add_left (fewerHolders arc) _).trans (room.issuers issuer arc found)
  handles handle := (Nat.add_le_add_left (fewerPending handle) _).trans (room.handles handle)
  total := (Nat.add_le_add_left fewerInFlight _).trans room.total

theorem setGuard_le (room : record.RoomFor bounds threads) {arc : Arc} {guard : Guard}
    (shorter : len guard ≤ len (record.guards arc)) :
    (record.setGuard arc guard).RoomFor bounds threads where
  issuers issuer other found := by
    by_cases same : other = arc
    · subst same
      simp only [setGuard, Function.update_self]
      exact (Nat.add_le_add_right shorter _).trans (room.issuers issuer other found)
    · simp only [setGuard, Function.update_of_ne same]
      exact room.issuers issuer other found
  handles := room.handles
  total := (Nat.add_le_add_right (totalHeld_setGuard_le shorter) _).trans room.total

/-- A fresh claim charges its handle for what it had pending there. -/
theorem charge (room : record.RoomFor bounds threads) {handle : Handle} {issuer : Issuer} {id : Id}
    {retainUntil : Option DateTime}
    (sameHolders : ∀ arc, holders later arc = holders threads arc)
    (fewerPending : ∀ other, pending later other + (if handle = other then 1 else 0) =
      pending threads other)
    (sameInFlight : inFlight later = inFlight threads) :
    (record.charge handle issuer id retainUntil).RoomFor bounds later where
  issuers other arc kept := by
    rw [sameHolders]
    exact room.issuers other arc kept
  handles other := by
    rw [charges_charge]
    have before := room.handles other
    have paid := fewerPending other
    split
    · rename_i same
      subst same
      rw [if_pos rfl] at paid
      simp only [List.length_append, List.length_singleton]
      omega
    · rename_i different
      rw [if_neg (Ne.symm different)] at paid
      omega
  total := by
    rw [sameInFlight]
    exact room.total

theorem uncharge [DecidableEq Id] (room : record.RoomFor bounds threads) (handle : Handle)
    (issuer : Issuer) (id : Id) : (record.uncharge handle issuer id).RoomFor bounds threads where
  issuers := room.issuers
  handles other := by
    rw [charges_uncharge]
    split
    · exact (Nat.add_le_add_right (List.length_filter_le _ _) _).trans (room.handles other)
    · exact room.handles other
  total := room.total

end RoomFor

/-! ## What a partition does to the counts -/

section Partition

variable [LawfulReplayGuard Guard]

/-- A full record refuses the claim. -/
theorem partition_of_full {bounds : Bounds} {record : ReplayRecord Guard Issuer Handle Id}
    {issuer : Issuer} {handle : Handle} {now : DateTime}
    (full : (record.purge now).Full bounds issuer handle) :
    (record.partition bounds issuer handle now).1 = .error busy := by
  rw [Full, totalHeld_purge] at full
  rw [partition]
  split
  · rfl
  · rename_i chargesRoom
    simp only [len_entryOrInsert]
    rw [if_pos (full.resolve_left chargesRoom)]

/-- A record which hands out an address keeps the room that there was beside the claims in
flight. -/
theorem partition_roomBeside {bounds : Bounds} {record : ReplayRecord Guard Issuer Handle Id}
    (wellFormed : record.WellFormed bounds)
    {threads : List (Thread Issuer Handle Id Digest Response)}
    (unheld : holders threads record.nextArc = 0) {issuer : Issuer} {handle : Handle}
    {now : DateTime} (room : (record.purge now).RoomBeside bounds threads issuer handle) :
    (record.partition bounds issuer handle now).2.RoomBeside bounds threads issuer handle := by
  rcases record.partition_record bounds issuer handle now with same | ⟨absent, opened⟩
  · rw [same]
    exact room
  · rw [opened]
    refine ⟨fun arc found => ?_, room.2.1, ?_⟩
    · cases Option.some.inj ((AList.lookup_insert _).symm.trans found)
      rw [len_openPartition, zero_add, show (record.purge now).nextArc = record.nextArc from rfl,
        unheld]
      exact bounds.perIssuer_pos
    · rw [totalHeld_openPartition (purge_wellFormed wellFormed now) absent]
      exact room.2.2

/-- A guard in the map after a partition was there before and is no longer than it was, or is a
new and empty one. -/
theorem partition_guard {bounds : Bounds} (record : ReplayRecord Guard Issuer Handle Id)
    {issuer other : Issuer} {handle : Handle} {now : DateTime} {arc : Arc}
    (wellFormed : record.WellFormed bounds)
    (found : (record.partition bounds issuer handle now).2.issuers.lookup other = some arc) :
    (record.issuers.lookup other = some arc ∧
      len ((record.partition bounds issuer handle now).2.guards arc) ≤ len (record.guards arc)) ∨
    (arc = record.nextArc ∧
      len ((record.partition bounds issuer handle now).2.guards arc) = 0) := by
  have purged : ∀ {arc'}, (record.purge now).issuers.lookup other = some arc' →
      record.issuers.lookup other = some arc' := by
    intro arc' kept
    simp only [purge, AssocMap.lookup_retain] at kept
    exact (Option.filter_eq_some_iff.mp kept).1
  rcases record.partition_record bounds issuer handle now with same | ⟨_, opened⟩
  · rw [same] at found ⊢
    exact .inl ⟨purged found, record.len_purgedGuards_le now arc⟩
  · rw [opened] at found ⊢
    rw [openPartition, AssocMap.lookup_insert] at found
    split at found
    · cases found
      exact .inr ⟨rfl, len_openPartition bounds (record.purge now) issuer⟩
    · have before := purged found
      have different : arc ≠ (record.purge now).nextArc := (wellFormed.lookup_lt before).ne
      simp only [openPartition, Function.update_of_ne different]
      exact .inl ⟨before, record.len_purgedGuards_le now arc⟩

theorem partition_totalHeld_le {bounds : Bounds} {record : ReplayRecord Guard Issuer Handle Id}
    (wellFormed : record.WellFormed bounds) (issuer : Issuer) (handle : Handle)
    (now : DateTime) :
    (record.partition bounds issuer handle now).2.totalHeld ≤ record.totalHeld := by
  rcases record.partition_record bounds issuer handle now with same | ⟨absent, opened⟩
  · rw [same]
    exact record.totalHeld_purge_le now
  · rw [opened, totalHeld_openPartition (purge_wellFormed wellFormed now) absent]
    exact record.totalHeld_purge_le now

theorem partition_charges_le {bounds : Bounds} {record : ReplayRecord Guard Issuer Handle Id}
    (wellFormed : record.WellFormed bounds) (issuer : Issuer) (handle other : Handle)
    (now : DateTime) :
    ((record.partition bounds issuer handle now).2.charges other).length ≤
      (record.charges other).length := by
  have charges := congrArg (fun ledger => ledger.charges other)
    (partition_spec wellFormed issuer handle now).2.1
  rw [show (record.partition bounds issuer handle now).2.charges other = _ from charges]
  exact List.length_filter_le _ _

/-- A partition drops expired entries only. -/
theorem partition_keeps {bounds : Bounds}
    {record : ReplayRecord Guard Issuer Handle Id} (wellFormed : record.WellFormed bounds)
    (issuer : Issuer) (handle : Handle) (now : DateTime) {other : Issuer} {id : Id}
    {entry : Retained Digest Response} (found : record.entry other id = some entry) :
    (record.partition bounds issuer handle now).2.StillKeeps other id entry ∨
      entry.live now = false := by
  cases live : entry.live now with
  | false => exact .inr rfl
  | true =>
      have expired := congrArg (fun ledger => ledger.entries other id)
        (partition_spec wellFormed issuer handle now).2.1
      refine .inl (stillKeeps_of_entry_eq (expired.trans ?_))
      simp only [Ledger.expire, ledger, found]
      simp [Option.filter_some, live]

namespace RoomFor

variable {bounds : Bounds} {record : ReplayRecord Guard Issuer Handle Id}
  {threads later : List (Thread Issuer Handle Id Digest Response)}

/-- A partition leaves the room of the calls which are past theirs. -/
theorem partitioned (room : record.RoomFor bounds threads) (wellFormed : record.WellFormed bounds)
    (unheld : holders threads record.nextArc = 0) (issuer : Issuer) (handle : Handle)
    (now : DateTime) : (record.partition bounds issuer handle now).2.RoomFor bounds threads where
  issuers other arc kept := by
    obtain ⟨before, shorter⟩ | ⟨rfl, empty⟩ := record.partition_guard wellFormed kept
    · exact (Nat.add_le_add_right shorter _).trans (room.issuers other arc before)
    · simp [empty, unheld]
  handles other :=
    (Nat.add_le_add_right (partition_charges_le wellFormed issuer handle other now) _).trans
      (room.handles other)
  total :=
    (Nat.add_le_add_right (partition_totalHeld_le wellFormed issuer handle now) _).trans room.total

/-- A claim which leaves its holding phase makes the room that its guard call may use. -/
theorem claimGuard (room : record.RoomFor bounds threads) (wellFormed : record.WellFormed bounds)
    {issuer : Issuer} {arc : Arc} (found : record.issuers.lookup issuer = some arc)
    (fewerHolders : ∀ other, holders later other + (if arc = other then 1 else 0) =
      holders threads other)
    (fewerPending : ∀ handle, pending later handle ≤ pending threads handle)
    (fewerInFlight : inFlight later + 1 = inFlight threads) {id : Id} {digest : Digest}
    {retainUntil : Option DateTime} {now : DateTime} :
    (record.claimGuard arc id digest retainUntil now).2.RoomFor bounds later where
  issuers other kept_arc kept := by
    have longer := len_claim_le (record.guards arc) id digest retainUntil now
    have before := room.issuers other kept_arc kept
    have freed := fewerHolders kept_arc
    by_cases same : kept_arc = arc
    · subst same
      rw [if_pos rfl] at freed
      simp only [ReplayRecord.claimGuard, setGuard, Function.update_self]
      omega
    · rw [if_neg (Ne.symm same)] at freed
      simp only [ReplayRecord.claimGuard, setGuard, Function.update_of_ne same]
      omega
  handles handle := (Nat.add_le_add_left (fewerPending handle) _).trans (room.handles handle)
  total := by
    have longer := len_claim_le (record.guards arc) id digest retainUntil now
    have changed := totalHeld_setGuard wellFormed found
      (ReplayGuard.claim (record.guards arc) id digest retainUntil now).2
    have before := room.total
    simp only [ReplayRecord.claimGuard]
    omega

end RoomFor

end Partition

end ReplayRecord

/-! ## What a run keeps within its budgets -/

/-- What the module promises at every point of what is live at `now`. -/
structure Pool.WithinBudgets (bounds : Bounds)
    (pool : Pool Guard Issuer Handle Id Digest Response)
    (now : DateTime) : Prop where
  issuers : ∀ issuer arc, pool.record.issuers.lookup issuer = some arc →
    len (purgeExpired (pool.record.guards arc) now) ≤ bounds.perIssuer
  handles : ∀ handle, ((pool.record.charges handle).filter fun charge =>
    unexpired charge.retainUntil now).length ≤ bounds.perHandle
  total : (pool.record.purge now).totalHeld ≤ 2 * bounds.total

theorem ReplayRecord.RoomFor.within [LawfulReplayGuard Guard] {bounds : Bounds}
    {pool : Pool Guard Issuer Handle Id Digest Response}
    (room : pool.record.RoomFor bounds pool.threads) (now : DateTime) :
    pool.WithinBudgets bounds now where
  issuers issuer arc found := by
    have live := len_purgeExpired_le (pool.record.guards arc) now
    have held := room.issuers issuer arc found
    omega
  handles handle := by
    have live := List.length_filter_le (fun charge => unexpired charge.retainUntil now)
      (pool.record.charges handle)
    have charged := room.handles handle
    omega
  total := by
    have live := pool.record.totalHeld_purge_le now
    have hard : bounds.hardBound ≤ bounds.total * 2 := min_le_left _ _
    have total := room.total
    omega

variable [DecidableEq Id] [DecidableEq Digest]

namespace Pool

/-- A partition finds a budget full, or room for its claim beside those in flight. -/
def KeepsRoom (bounds : Bounds) (pool : Pool Guard Issuer Handle Id Digest Response)
    (action : Action Issuer Handle Id Digest Response) : Prop :=
  ∀ start ∈ pool.opening action,
    (pool.record.purge start.2.2).Full bounds start.1 start.2.1 ∨
      (pool.record.purge start.2.2).RoomBeside bounds pool.threads start.1 start.2.1

instance (bounds : Bounds) (pool : Pool Guard Issuer Handle Id Digest Response)
    (action : Action Issuer Handle Id Digest Response) :
    Decidable (pool.KeepsRoom bounds action) := by
  unfold KeepsRoom ReplayRecord.Full ReplayRecord.RoomBeside
  infer_instance

/-- The clock of the claim which takes a step. -/
def clock (pool : Pool Guard Issuer Handle Id Digest Response) :
    Action Issuer Handle Id Digest Response → Option DateTime
  | .spawn _ => none
  | .advance index =>
      match pool.threads[index]? with
      | some ⟨.claim _ _ _ _ _ now, _⟩ => some now
      | _ => none

/-- The action is the guard call which releases this document. -/
def Releasing (pool : Pool Guard Issuer Handle Id Digest Response)
    (action : Action Issuer Handle Id Digest Response) (issuer : Issuer) (id : Id)
    (digest : Digest) : Prop :=
  ∃ index handle arc, action = .advance index ∧
    pool.threads[index]? = some ⟨.complete issuer handle id digest none, .located arc⟩

/-- A step drops no entry which is neither expired nor released, and enters what it answers
fresh. -/
structure DropsNothingLive (bounds : Bounds)
    (pool : Pool Guard Issuer Handle Id Digest Response)
    (action : Action Issuer Handle Id Digest Response) : Prop where
  kept : ∀ issuer id entry, pool.record.entry issuer id = some entry →
    (pool.step bounds action).record.StillKeeps issuer id entry ∨
    (∃ now ∈ pool.clock action, entry.live now = false) ∨
    pool.Releasing action issuer id entry.digest
  entered : ∀ issuer id digest,
    (pool.step bounds action).log = pool.log ++ [.fresh issuer id digest] →
    ∃ entry, (pool.step bounds action).record.entry issuer id = some entry ∧ entry.digest = digest

/-- A step which leaves the record and its log alone drops nothing. -/
theorem dropsNothingLive_of_unchanged {bounds : Bounds}
    {pool : Pool Guard Issuer Handle Id Digest Response}
    {action : Action Issuer Handle Id Digest Response}
    (record : (pool.step bounds action).record = pool.record)
    (log : (pool.step bounds action).log = pool.log) : pool.DropsNothingLive bounds action where
  kept issuer id entry found := by
    rw [record]
    exact .inl (ReplayRecord.stillKeeps_of_entry_eq found)
  entered issuer id digest logged := by
    rw [log] at logged
    simp at logged

end Pool

section Lawful

variable [LawfulReplayGuard Guard]

/-! ## The budgets count the claims in flight -/

/-- The invariant is kept when a call takes its next step. -/
theorem Thread.Advanced.roomFor {bounds : Bounds}
    {pool : Pool Guard Issuer Handle Id Digest Response} {index : Nat}
    {thread : Thread Issuer Handle Id Digest Response}
    {later : ReplayRecord Guard Issuer Handle Id} {phase : Phase}
    {events : List (Event Issuer Id Digest)}
    (advanced : thread.Advanced bounds pool.record later phase events)
    (found : pool.threads[index]? = some thread) (anchored : pool.Anchored bounds)
    (room : pool.record.RoomFor bounds pool.threads)
    (keeps : pool.KeepsRoom bounds (.advance index)) :
    later.RoomFor bounds (pool.threads.set index { thread with phase := phase }) := by
  have wellFormed := anchored.wellFormed
  have holders := holders_set found { thread with phase := phase }
  have pending := pending_set found { thread with phase := phase }
  have inFlight := inFlight_set found { thread with phase := phase }
  cases advanced with
  | @refused issuer handle _ _ _ now =>
      simp [Thread.held, Thread.pendingOn] at holders pending inFlight
      exact (room.partitioned wellFormed anchored.holders_nextArc issuer handle now).mono
        (fun arc => (holders arc).le) (fun other => (pending other).le) inFlight.le
  | @admitted issuer handle _ _ _ now arc answer =>
      simp [Thread.held, Thread.pendingOn] at holders pending inFlight
      -- A full record would have refused, so the condition left the room which this claim takes.
      have notFull : ¬(pool.record.purge now).Full bounds issuer handle := by
        intro full
        cases answer.symm.trans (ReplayRecord.partition_of_full full)
      have beside := (keeps (issuer, handle, now) (by simp [Pool.opening, found])).resolve_left
        notFull
      obtain ⟨issuersRoom, handleRoom, totalRoom⟩ :=
        ReplayRecord.partition_roomBeside wellFormed anchored.holders_nextArc beside
      dsimp only at issuersRoom handleRoom totalRoom
      have handed : (pool.record.partition bounds issuer handle now).2.issuers.lookup issuer =
          some arc := by
        obtain refused | ⟨other, given, opened⟩ :=
          (ReplayRecord.partition_spec wellFormed issuer handle now).2.2
        · cases answer.symm.trans refused
        · cases answer.symm.trans given
          exact opened.found
      have issuerRoom := issuersRoom arc handed
      have others := room.partitioned wellFormed anchored.holders_nextArc issuer handle now
      refine ⟨fun other kept_arc kept => ?_, fun other => ?_, ?_⟩
      · rw [holders]
        split
        · rename_i same
          subst same
          omega
        · exact others.issuers other kept_arc kept
      · rw [pending]
        split
        · rename_i same
          subst same
          omega
        · exact others.handles other
      · rw [inFlight]
        omega
  | @claimed issuer handle id digest retainUntil now arc verdict =>
      simp [Thread.held, Thread.pendingOn] at holders pending inFlight
      exact room.claimGuard wellFormed (anchored.threads _ (List.mem_of_getElem? found)) holders
        (fun other => (pending other).le) inFlight
  | @stale issuer handle id digest retainUntil now arc verdict =>
      simp [Thread.held, Thread.pendingOn] at holders pending inFlight
      exact room.claimGuard wellFormed (anchored.threads _ (List.mem_of_getElem? found)) holders
        (fun other => (Nat.le_add_right _ _).trans (pending other).le) inFlight
  | @charged issuer handle id _ retainUntil _ =>
      simp [Thread.held, Thread.pendingOn] at holders pending inFlight
      exact room.charge holders pending inFlight
  | @uncharged issuer handle id _ =>
      simp [Thread.held, Thread.pendingOn] at holders pending inFlight
      exact (room.uncharge handle issuer id).mono (fun arc => (holders arc).le)
        (fun other => (pending other).le) inFlight.le
  | @located issuer _ _ _ _ _ =>
      have unheld : ∀ call, (⟨call, pool.record.locate issuer⟩ :
          Thread Issuer Handle Id Digest Response).held = none := by
        intro call
        rw [ReplayRecord.locate]
        split <;> rfl
      simp [unheld, Thread.pendingOn] at holders pending inFlight
      exact room.mono (fun arc => (Nat.le_add_right _ _).trans (holders arc).le)
        (fun other => (pending other).le) ((Nat.le_add_right _ _).trans inFlight.le)
  | @closedOut _ _ id digest response arc =>
      simp [Thread.held, Thread.pendingOn] at holders pending inFlight
      have same := room.mono (fun arc => (holders arc).le) (fun other => (pending other).le)
        inFlight.le
      cases response with
      | none => exact same.setGuard_le (len_release_le _ id digest)
      | some response => exact same.setGuard_le (len_recordResponse _ id response).le
  | idle =>
      exact room.mono (fun arc => Nat.le_of_add_le_add_right (holders arc).le)
        (fun other => Nat.le_of_add_le_add_right (pending other).le)
        (Nat.le_of_add_le_add_right inFlight.le)

/-! ## Nothing live is dropped -/

/-- Closing out drops only the entry it releases. -/
theorem ReplayRecord.closeOut_keeps {bounds : Bounds}
    {record : ReplayRecord Guard Issuer Handle Id} (wellFormed : record.WellFormed bounds)
    {issuer : Issuer} {arc : Arc}
    (own : ∀ other, record.issuers.lookup other = some arc → other = issuer) (closedId : Id)
    (digest : Digest) (response : Option Response) {other : Issuer} {id : Id}
    {entry : Retained Digest Response} (found : record.entry other id = some entry) :
    (record.closeOut arc closedId digest response).StillKeeps other id entry ∨
      (other = issuer ∧ id = closedId ∧ entry.digest = digest ∧ response = none) := by
  by_cases resolved : record.issuers.lookup issuer = some arc
  · have closed := congrArg (fun ledger => ledger.entries other id)
      (ledger_closeOut wellFormed resolved closedId digest response)
    dsimp only [ledger] at closed
    cases response with
    | some response =>
        simp only [Ledger.recordResponse, found, Option.map_some] at closed
        split at closed
        · exact .inl ⟨_, closed, rfl, rfl⟩
        · exact .inl (stillKeeps_of_entry_eq closed)
    | none =>
        simp only [Ledger.withdraw, found] at closed
        split at closed
        · rename_i target
          by_cases same : entry.digest = digest
          · exact .inr ⟨target.1, target.2, same, rfl⟩
          · refine .inl (stillKeeps_of_entry_eq (closed.trans ?_))
            simp [Option.filter_some, Retained.releasedBy_of_ne same]
        · exact .inl (stillKeeps_of_entry_eq closed)
  · exact .inl (stillKeeps_of_entry_eq
      ((entry_closeOut_of_dropped own resolved closedId digest response other id).trans found))

/-- The next step of a call drops an entry only by its expiry or its release. -/
theorem Thread.Advanced.keeps {bounds : Bounds} {record later : ReplayRecord Guard Issuer Handle Id}
    {thread : Thread Issuer Handle Id Digest Response} {phase : Phase}
    {events : List (Event Issuer Id Digest)}
    (advanced : thread.Advanced bounds record later phase events)
    (wellFormed : record.WellFormed bounds) (anchored : thread.Anchored record)
    (room : ∀ issuer arc, record.issuers.lookup issuer = some arc →
      len (record.guards arc) ≤ bounds.perIssuer)
    {issuer : Issuer} {id : Id} {entry : Retained Digest Response}
    (found : record.entry issuer id = some entry) :
    later.StillKeeps issuer id entry ∨
      (∃ claimant handle claimed digest retainUntil now,
        thread.call = .claim claimant handle claimed digest retainUntil now ∧
          entry.live now = false) ∨
      ∃ handle arc, thread = ⟨.complete issuer handle id entry.digest none, .located arc⟩ := by
  cases advanced with
  | refused =>
      exact (ReplayRecord.partition_keeps wellFormed _ _ _ found).imp_right fun expired =>
        .inl ⟨_, _, _, _, _, _, rfl, expired⟩
  | admitted =>
      exact (ReplayRecord.partition_keeps wellFormed _ _ _ found).imp_right fun expired =>
        .inl ⟨_, _, _, _, _, _, rfl, expired⟩
  | claimed =>
      exact (ReplayRecord.claimGuard_keeps wellFormed anchored (room _ _ anchored) _ _ _ _
        found).imp_right fun expired => .inl ⟨_, _, _, _, _, _, rfl, expired⟩
  | stale =>
      exact (ReplayRecord.claimGuard_keeps wellFormed anchored (room _ _ anchored) _ _ _ _
        found).imp_right fun expired => .inl ⟨_, _, _, _, _, _, rfl, expired⟩
  | charged => exact .inl (ReplayRecord.stillKeeps_of_entry_eq found)
  | uncharged => exact .inl (ReplayRecord.stillKeeps_of_entry_eq found)
  | located => exact .inl (ReplayRecord.stillKeeps_of_entry_eq found)
  | @closedOut _ handle closedId digest response arc =>
      rcases ReplayRecord.closeOut_keeps wellFormed anchored.2 closedId digest response found with
        kept | ⟨rfl, rfl, rfl, rfl⟩
      · exact .inl kept
      · exact .inr (.inr ⟨handle, arc, rfl⟩)
  | idle => exact .inl (ReplayRecord.stillKeeps_of_entry_eq found)

/-- A fresh answer is logged by the guard call which enters its document. -/
theorem Thread.Advanced.enters {bounds : Bounds}
    {record later : ReplayRecord Guard Issuer Handle Id}
    {thread : Thread Issuer Handle Id Digest Response} {phase : Phase}
    {events : List (Event Issuer Id Digest)}
    (advanced : thread.Advanced bounds record later phase events)
    (anchored : thread.Anchored record) {issuer : Issuer} {id : Id} {digest : Digest}
    (logged : events = [.fresh issuer id digest]) :
    ∃ entry, later.entry issuer id = some entry ∧ entry.digest = digest := by
  cases advanced with
  | @claimed _ _ _ _ retainUntil now arc verdict =>
      cases logged
      refine ⟨⟨digest, none, retainUntil⟩, ?_, rfl⟩
      have entered : (record.claimGuard arc id digest retainUntil now).2.issuers.lookup issuer =
          some arc := anchored
      refine (ReplayRecord.entry_of_lookup entered id).trans ?_
      simp only [ReplayRecord.claimGuard, ReplayRecord.setGuard, Function.update_self]
      exact LawfulReplayGuard.claim_fresh _ _ _ _ _ verdict
  | @closedOut _ _ _ _ response =>
      cases response with
      | some response => cases logged
      | none =>
          simp only [ReplayRecord.releases] at logged
          split at logged
          · split at logged <;> cases logged
          · cases logged
  | refused => cases logged
  | admitted => cases logged
  | stale => cases logged
  | charged => cases logged
  | uncharged => cases logged
  | located => cases logged
  | idle => cases logged

namespace Pool

theorem dropsNothingLive {bounds : Bounds} {pool : Pool Guard Issuer Handle Id Digest Response}
    (anchored : pool.Anchored bounds) (room : pool.record.RoomFor bounds pool.threads)
    (action : Action Issuer Handle Id Digest Response) : pool.DropsNothingLive bounds action := by
  rcases pool.step_cases bounds action with ⟨call, rfl, stepped⟩ | stepped |
    ⟨index, thread, record, phase, events, rfl, located, advanced, stepped⟩
  · exact dropsNothingLive_of_unchanged (by rw [stepped]) (by rw [stepped])
  · exact dropsNothingLive_of_unchanged (by rw [stepped]) (by rw [stepped])
  · have own := anchored.threads thread (List.mem_of_getElem? located)
    have guardRoom : ∀ issuer arc, pool.record.issuers.lookup issuer = some arc →
        len (pool.record.guards arc) ≤ bounds.perIssuer := fun issuer arc found =>
      (Nat.le_add_right _ _).trans (room.issuers issuer arc found)
    constructor
    · intro issuer id entry found
      rw [stepped]
      rcases advanced.keeps anchored.wellFormed own guardRoom found with
        kept | ⟨_, _, _, _, _, now, called, expired⟩ | ⟨handle, arc, rfl⟩
      · exact .inl kept
      · refine .inr (.inl ⟨now, ?_, expired⟩)
        obtain ⟨call, reached⟩ := thread
        cases called
        simp [clock, located]
      · exact .inr (.inr ⟨index, handle, arc, rfl, located⟩)
    · intro issuer id digest logged
      rw [stepped] at logged ⊢
      exact advanced.enters own (List.append_cancel_left logged)

theorem roomFor_step {bounds : Bounds} {pool : Pool Guard Issuer Handle Id Digest Response}
    {action : Action Issuer Handle Id Digest Response} (anchored : pool.Anchored bounds)
    (room : pool.record.RoomFor bounds pool.threads)
    (keeps : pool.KeepsRoom bounds action) :
    (pool.step bounds action).record.RoomFor bounds (pool.step bounds action).threads := by
  rcases pool.step_cases bounds action with ⟨call, rfl, stepped⟩ | stepped |
    ⟨index, thread, record, phase, events, rfl, found, advanced, stepped⟩
  · rw [stepped]
    refine room.mono (fun arc => ?_) (fun handle => ?_) ?_
    · simp [holders, Thread.held]
    · cases call <;> simp [pending, Thread.pendingOn]
    · simp [inFlight, Thread.held]
  · rw [stepped]
    exact room
  · rw [stepped]
    exact advanced.roomFor found anchored room keeps

/-- In every interleaving whose partitions leave room for the claims in flight and drop no guard
a claim holds, the budgets hold at every point, and no step drops an entry which is neither
expired nor released. -/
theorem budgets_hold (bounds : Bounds) (actions : List (Action Issuer Handle Id Digest Response))
    (met : Execution.Along (step bounds)
      (fun pool action => pool.KeepsHeld action ∧ pool.KeepsRoom bounds action)
      (initial : Pool Guard Issuer Handle Id Digest Response) actions) :
    (∀ now, (after bounds actions : Pool Guard Issuer Handle Id Digest Response).WithinBudgets
        bounds now) ∧
      Execution.Along (step bounds)
        (fun pool action =>
          (∀ now, pool.WithinBudgets bounds now) ∧ pool.DropsNothingLive bounds action)
        (initial : Pool Guard Issuer Handle Id Digest Response) actions := by
  have preserved : ∀ (pool : Pool Guard Issuer Handle Id Digest Response) action,
      pool.Anchored bounds ∧ pool.record.RoomFor bounds pool.threads →
      pool.KeepsHeld action ∧ pool.KeepsRoom bounds action →
      (pool.step bounds action).Anchored bounds ∧
        (pool.step bounds action).record.RoomFor bounds (pool.step bounds action).threads :=
    fun pool action holds met =>
      ⟨anchored_step holds.1 met.1, roomFor_step holds.1 holds.2 met.2⟩
  have initially : (initial : Pool Guard Issuer Handle Id Digest Response).Anchored bounds ∧
      (initial : Pool Guard Issuer Handle Id Digest Response).record.RoomFor bounds [] :=
    ⟨initial_anchored bounds, ⟨nofun, fun _ => Nat.zero_le _, Nat.zero_le _⟩⟩
  refine ⟨(Execution.invariant preserved initially met).2.within, ?_⟩
  refine Execution.along_mono (fun pool action holds => ?_)
    (Execution.along_with_invariant preserved initially met)
  exact ⟨holds.1.2.within, dropsNothingLive holds.1.1 holds.1.2 action⟩

end Pool

end Lawful

/-! ## The race past the budgets -/

private abbrev BudgetPool := Pool (ReferenceGuard Nat Nat Nat) Nat Nat Nat Nat Nat

private def pairBounds : Bounds :=
  { Bounds.default with perIssuer := 2, perIssuer_pos := by decide }

private def delivery (id : Nat) : Call Nat Nat Nat Nat Nat := .claim 0 0 id id (some 1) 0

private def deliverAlone (index id : Nat) : List (Action Nat Nat Nat Nat Nat) :=
  [.spawn (delivery id), .advance index, .advance index, .advance index]

/-- One claim completes, then three pass their partition before any of them enters its
document. -/
private def overrun : List (Action Nat Nat Nat Nat Nat) :=
  deliverAlone 0 0 ++
    [.spawn (delivery 1), .spawn (delivery 2), .spawn (delivery 3), .advance 1, .advance 2,
      .advance 3, .advance 1, .advance 2, .advance 3]

theorem Pool.budgets_hold_in_turn :
    (∀ now, (Pool.after pairBounds (deliverAlone 0 0 ++ deliverAlone 1 1) :
        BudgetPool).WithinBudgets pairBounds now) ∧
      Execution.Along (Pool.step pairBounds)
        (fun pool action =>
          (∀ now, pool.WithinBudgets pairBounds now) ∧ pool.DropsNothingLive pairBounds action)
        (Pool.initial : BudgetPool) (deliverAlone 0 0 ++ deliverAlone 1 1) :=
  Pool.budgets_hold pairBounds (deliverAlone 0 0 ++ deliverAlone 1 1) (by decide)

/-- Three claims see the one slot that is left.  The guard grows past its bound and then evicts a
live entry. -/
theorem Pool.budgets_fail_in_race :
    ¬∀ (bounds : Bounds) (actions : List (Action Nat Nat Nat Nat Nat)),
      (∀ now, (after bounds actions : BudgetPool).WithinBudgets bounds now) ∧
        Execution.Along (step bounds)
          (fun pool action =>
            (∀ now, pool.WithinBudgets bounds now) ∧ pool.DropsNothingLive bounds action)
          (initial : BudgetPool) actions := by
  intro holds
  have bounded := ((holds pairBounds overrun).1 0).issuers 0 0 (by decide)
  exact absurd bounded (by decide)

end PushGateway
