import PushGateway.Foundation.Execution
import PushGateway.Replay.Ledger

/-!
# Concurrent callers of the replay record

Any number of claims and completions run side by side.  Every critical section under the record's
mutex and every call on a guard is one atomic step, and the steps interleave in any order.  A
claim holds the address of its issuer's guard between its partition and its guard call; nothing
keeps that guard in the map meanwhile.
-/

namespace PushGateway

open ReplayGuard

/-- A call on the record. -/
inductive Call (Issuer Handle Id Digest Response : Type) where
  | claim (issuer : Issuer) (handle : Handle) (id : Id) (digest : Digest)
      (retainUntil : Option DateTime) (now : DateTime)
  | complete (issuer : Issuer) (handle : Handle) (id : Id) (digest : Digest)
      (response : Option Response)
  deriving DecidableEq, Repr

/-- The issuer a call is made for. -/
def Call.issuer {Issuer Handle Id Digest Response : Type} :
    Call Issuer Handle Id Digest Response → Issuer
  | .claim issuer _ _ _ _ _ => issuer
  | .complete issuer _ _ _ _ => issuer

/-- How far a call has come. -/
inductive Phase where
  | begun
  /-- A claim past its partition, with the address it was handed. -/
  | holding (arc : Arc)
  /-- A claim whose guard answered fresh, not yet charged to its handle. -/
  | claimed
  /-- A completion past its `uncharge`. -/
  | uncharged
  /-- A completion which has looked its guard up. -/
  | located (arc : Arc)
  | returned
  deriving DecidableEq, Repr

/-- A call in progress. -/
structure Thread (Issuer Handle Id Digest Response : Type) where
  call : Call Issuer Handle Id Digest Response
  phase : Phase
  deriving DecidableEq, Repr

/-- The address a claim holds between its partition and its guard call. -/
def Thread.held {Issuer Handle Id Digest Response : Type}
    (thread : Thread Issuer Handle Id Digest Response) : Option Arc :=
  match thread.phase with
  | .holding arc => some arc
  | _ => none

/-- What a log keeps of a run: the fresh answers, and the releases which took an entry away. -/
inductive Event (Issuer Id Digest : Type) where
  | fresh (issuer : Issuer) (id : Id) (digest : Digest)
  | released (issuer : Issuer) (id : Id) (digest : Digest)
  deriving DecidableEq, Repr

/-- The claims of a document which were answered fresh and have not been released. -/
def unreleased {Issuer Id Digest : Type} [DecidableEq Issuer] [DecidableEq Id]
    [DecidableEq Digest] (issuer : Issuer) (id : Id) (digest : Digest)
    (log : List (Event Issuer Id Digest)) : Nat :=
  Execution.outstanding (fun event => decide (event = .fresh issuer id digest))
    (fun event => decide (event = .released issuer id digest)) log

theorem unreleased_fresh {Issuer Id Digest : Type} [DecidableEq Issuer] [DecidableEq Id]
    [DecidableEq Digest] (log : List (Event Issuer Id Digest)) (issuer other : Issuer)
    (id otherId : Id) (digest otherDigest : Digest) :
    unreleased other otherId otherDigest (log ++ [.fresh issuer id digest]) =
      unreleased other otherId otherDigest log +
        if other = issuer ∧ otherId = id ∧ otherDigest = digest then 1 else 0 := by
  simp only [unreleased, Execution.outstanding_concat, Event.fresh.injEq, decide_eq_true_eq,
    reduceCtorEq, decide_false, Bool.false_eq_true, if_false]
  rw [if_congr (and_congr eq_comm (and_congr eq_comm eq_comm)) rfl rfl]
  split <;> rfl

theorem unreleased_released {Issuer Id Digest : Type} [DecidableEq Issuer] [DecidableEq Id]
    [DecidableEq Digest] (log : List (Event Issuer Id Digest)) (issuer other : Issuer)
    (id otherId : Id) (digest otherDigest : Digest) :
    unreleased other otherId otherDigest (log ++ [.released issuer id digest]) =
      unreleased other otherId otherDigest log -
        if other = issuer ∧ otherId = id ∧ otherDigest = digest then 1 else 0 := by
  simp only [unreleased, Execution.outstanding_concat, Event.released.injEq, decide_eq_true_eq,
    reduceCtorEq, decide_false, Bool.false_eq_true, if_false]
  rw [if_congr (and_congr eq_comm (and_congr eq_comm eq_comm)) rfl rfl]
  split <;> rfl

/-- The record with its callers. -/
structure Pool (Guard Issuer Handle Id Digest Response : Type) where
  record : ReplayRecord Guard Issuer Handle Id
  threads : List (Thread Issuer Handle Id Digest Response)
  log : List (Event Issuer Id Digest)

/-- A new call arrives, or one of the calls takes its next step. -/
inductive Action (Issuer Handle Id Digest Response : Type) where
  | spawn (call : Call Issuer Handle Id Digest Response)
  | advance (thread : Nat)
  deriving DecidableEq, Repr

variable {Guard Issuer Handle Id Digest Response : Type} [DecidableEq Issuer]

/-! ## Held addresses -/

/-- The addresses a later record still resolves as this one did: those held, and no allocated
address under a new issuer. -/
structure ReplayRecord.Leads (record later : ReplayRecord Guard Issuer Handle Id)
    (held : Arc → Prop) : Prop where
  nextArc_le : record.nextArc ≤ later.nextArc
  lookup_back : ∀ issuer arc, later.issuers.lookup issuer = some arc → arc < record.nextArc →
    record.issuers.lookup issuer = some arc
  lookup_kept : ∀ issuer arc, record.issuers.lookup issuer = some arc → held arc →
    later.issuers.lookup issuer = some arc

/-- A held address is the one the map holds for the call's issuer; a located one points to no
other issuer's guard. -/
def Thread.Anchored (record : ReplayRecord Guard Issuer Handle Id)
    (thread : Thread Issuer Handle Id Digest Response) : Prop :=
  match thread.phase with
  | .holding arc => record.issuers.lookup thread.call.issuer = some arc
  | .located arc => arc < record.nextArc ∧
      ∀ other, record.issuers.lookup other = some arc → other = thread.call.issuer
  | _ => True

theorem Thread.Anchored.leads {record later : ReplayRecord Guard Issuer Handle Id}
    {held : Arc → Prop} {thread : Thread Issuer Handle Id Digest Response}
    (anchored : thread.Anchored record) (leads : record.Leads later held)
    (holds : ∀ arc ∈ thread.held, held arc) : thread.Anchored later := by
  obtain ⟨call, phase⟩ := thread
  cases phase with
  | holding arc => exact leads.lookup_kept _ arc anchored (holds arc rfl)
  | located arc =>
      obtain ⟨below, own⟩ := anchored
      exact ⟨below.trans_le leads.nextArc_le, fun other found =>
        own other (leads.lookup_back other arc found below)⟩
  | begun => trivial
  | claimed => trivial
  | uncharged => trivial
  | returned => trivial

theorem ReplayRecord.leads_of_issuers_eq {record later : ReplayRecord Guard Issuer Handle Id}
    (issuers : later.issuers = record.issuers) (nextArc : later.nextArc = record.nextArc)
    (held : Arc → Prop) : record.Leads later held where
  nextArc_le := nextArc.ge
  lookup_back _ _ found _ := issuers ▸ found
  lookup_kept _ _ found _ := issuers.symm ▸ found

variable [DecidableEq Handle] [ReplayGuard Guard Id Digest Response]

theorem ReplayRecord.partition_leads (bounds : Bounds)
    (record : ReplayRecord Guard Issuer Handle Id) (issuer : Issuer) (handle : Handle)
    (now : DateTime) {held : Arc → Prop}
    (kept : ∀ arc, held arc → len (record.purgedGuards now arc) ≠ 0) :
    record.Leads (record.partition bounds issuer handle now).2 held := by
  have purged : record.Leads (record.purge now) held := by
    refine ⟨le_rfl, fun other arc found _ => ?_, fun other arc found holds => ?_⟩
    · simp only [purge, AssocMap.lookup_retain] at found
      exact (Option.filter_eq_some_iff.mp found).1
    · simp [purge, AssocMap.lookup_retain, found, kept arc holds]
  rcases record.partition_record bounds issuer handle now with same | ⟨absent, opened⟩
  · rw [same]
    exact purged
  · rw [opened]
    refine ⟨Nat.le_succ _, fun other arc found below => ?_, fun other arc found holds => ?_⟩
    · simp only [openPartition, AssocMap.lookup_insert] at found
      split at found
      · cases found
        exact absurd below (lt_irrefl _)
      · exact purged.lookup_back other arc found below
    · have found' := purged.lookup_kept other arc found holds
      simp only [openPartition, AssocMap.lookup_insert]
      split
      · rename_i same
        rw [same, absent] at found'
        cases found'
      · exact found'

/-! ## Calls in progress -/

variable [DecidableEq Id] [DecidableEq Digest]

namespace ReplayRecord

/-- The lookup of `complete`. -/
def locate (record : ReplayRecord Guard Issuer Handle Id) (issuer : Issuer) : Phase :=
  match record.issuers.lookup issuer with
  | none => .returned
  | some arc => .located arc

/-- The release a completion without a response logs, if an entry is there to be taken away. -/
def releases (record : ReplayRecord Guard Issuer Handle Id) (arc : Arc) (issuer : Issuer) (id : Id)
    (digest : Digest) : Option Response → List (Event Issuer Id Digest)
  | some _ => []
  | none =>
      match retained (record.guards arc) id with
      | some entry =>
          if entry.releasedBy (keepsAnswered Guard) digest then [.released issuer id digest] else []
      | none => []

end ReplayRecord

/-- The next atomic step of a call: the record it leaves, the phase it reaches and its events. -/
def Thread.advance (bounds : Bounds) (record : ReplayRecord Guard Issuer Handle Id) :
    Thread Issuer Handle Id Digest Response →
      ReplayRecord Guard Issuer Handle Id × Phase × List (Event Issuer Id Digest)
  | ⟨.claim issuer handle _ _ _ now, .begun⟩ =>
      match record.partition bounds issuer handle now with
      | (.error _, record) => (record, .returned, [])
      | (.ok arc, record) => (record, .holding arc, [])
  | ⟨.claim issuer _ id digest retainUntil now, .holding arc⟩ =>
      match record.claimGuard arc id digest retainUntil now with
      | (.fresh, record) => (record, .claimed, [.fresh issuer id digest])
      | (_, record) => (record, .returned, [])
  | ⟨.claim issuer handle id _ retainUntil _, .claimed⟩ =>
      (record.charge handle issuer id retainUntil, .returned, [])
  | ⟨.complete issuer handle id _ response, .begun⟩ =>
      if response.isNone then (record.uncharge handle issuer id, .uncharged, [])
      else (record, record.locate issuer, [])
  | ⟨.complete issuer _ _ _ _, .uncharged⟩ => (record, record.locate issuer, [])
  | ⟨.complete issuer _ id digest response, .located arc⟩ =>
      (record.closeOut arc id digest response, .returned,
        record.releases arc issuer id digest response)
  | ⟨_, phase⟩ => (record, phase, [])

/-- What the next step of a call can be. -/
inductive Thread.Advanced (bounds : Bounds) (record : ReplayRecord Guard Issuer Handle Id) :
    Thread Issuer Handle Id Digest Response → ReplayRecord Guard Issuer Handle Id → Phase →
      List (Event Issuer Id Digest) → Prop
  | refused {issuer handle id digest retainUntil now reason}
      (answer : (record.partition bounds issuer handle now).1 = .error reason) :
      Advanced bounds record ⟨.claim issuer handle id digest retainUntil now, .begun⟩
        (record.partition bounds issuer handle now).2 .returned []
  | admitted {issuer handle id digest retainUntil now arc}
      (answer : (record.partition bounds issuer handle now).1 = .ok arc) :
      Advanced bounds record ⟨.claim issuer handle id digest retainUntil now, .begun⟩
        (record.partition bounds issuer handle now).2 (.holding arc) []
  | claimed {issuer handle id digest retainUntil now arc}
      (verdict : (record.claimGuard arc id digest retainUntil now).1 = .fresh) :
      Advanced bounds record ⟨.claim issuer handle id digest retainUntil now, .holding arc⟩
        (record.claimGuard arc id digest retainUntil now).2 .claimed [.fresh issuer id digest]
  | stale {issuer handle id digest retainUntil now arc}
      (verdict : (record.claimGuard arc id digest retainUntil now).1 ≠ .fresh) :
      Advanced bounds record ⟨.claim issuer handle id digest retainUntil now, .holding arc⟩
        (record.claimGuard arc id digest retainUntil now).2 .returned []
  | charged {issuer handle id digest retainUntil now} :
      Advanced bounds record ⟨.claim issuer handle id digest retainUntil now, .claimed⟩
        (record.charge handle issuer id retainUntil) .returned []
  | uncharged {issuer handle id digest} :
      Advanced bounds record ⟨.complete issuer handle id digest none, .begun⟩
        (record.uncharge handle issuer id) .uncharged []
  | located {issuer handle id digest response phase} :
      Advanced bounds record ⟨.complete issuer handle id digest response, phase⟩
        record (record.locate issuer) []
  | closedOut {issuer handle id digest response arc} :
      Advanced bounds record ⟨.complete issuer handle id digest response, .located arc⟩
        (record.closeOut arc id digest response) .returned
        (record.releases arc issuer id digest response)
  | idle (thread) : Advanced bounds record thread record thread.phase []

theorem Thread.advance_advanced (bounds : Bounds) (record : ReplayRecord Guard Issuer Handle Id)
    (thread : Thread Issuer Handle Id Digest Response) :
    thread.Advanced bounds record (thread.advance bounds record).1
      (thread.advance bounds record).2.1 (thread.advance bounds record).2.2 := by
  obtain ⟨call, phase⟩ := thread
  cases call with
  | claim issuer handle id digest retainUntil now =>
      cases phase with
      | begun =>
          simp only [advance]
          split
          · rename_i answer
            have refused : Advanced bounds record
                ⟨.claim issuer handle id digest retainUntil now, .begun⟩ _ _ _ :=
              .refused (congrArg Prod.fst answer)
            rwa [answer] at refused
          · rename_i answer
            have admitted : Advanced bounds record
                ⟨.claim issuer handle id digest retainUntil now, .begun⟩ _ _ _ :=
              .admitted (congrArg Prod.fst answer)
            rwa [answer] at admitted
      | holding arc =>
          simp only [advance]
          split
          · rename_i answer
            have claimed : Advanced bounds record
                ⟨.claim issuer handle id digest retainUntil now, .holding arc⟩ _ _ _ :=
              .claimed (congrArg Prod.fst answer)
            rwa [answer] at claimed
          · rename_i answered after other answer
            have stale : (record.claimGuard arc id digest retainUntil now).1 ≠ .fresh := by
              rw [answer]
              rintro rfl
              exact other rfl
            have advanced : Advanced bounds record
                ⟨.claim issuer handle id digest retainUntil now, .holding arc⟩ _ _ _ :=
              .stale stale
            rwa [answer] at advanced
      | claimed => exact .charged
      | uncharged => exact .idle _
      | located arc => exact .idle _
      | returned => exact .idle _
  | complete issuer handle id digest response =>
      cases phase with
      | begun =>
          cases response with
          | none => exact .uncharged
          | some response => exact .located
      | holding arc => exact .idle _
      | claimed => exact .idle _
      | uncharged => exact .located
      | located arc => exact .closedOut
      | returned => exact .idle _

namespace Pool

/-- No calls, and an empty record. -/
def initial : Pool Guard Issuer Handle Id Digest Response where
  record := ReplayRecord.new
  threads := []
  log := []

def step (bounds : Bounds) (pool : Pool Guard Issuer Handle Id Digest Response) :
    Action Issuer Handle Id Digest Response → Pool Guard Issuer Handle Id Digest Response
  | .spawn call => { pool with threads := pool.threads ++ [⟨call, .begun⟩] }
  | .advance index =>
      match pool.threads[index]? with
      | none => pool
      | some thread =>
          let (record, phase, events) := thread.advance bounds pool.record
          { record := record
            threads := pool.threads.set index { thread with phase := phase }
            log := pool.log ++ events }

/-- The pool after a run from the start. -/
def after (bounds : Bounds) (actions : List (Action Issuer Handle Id Digest Response)) :
    Pool Guard Issuer Handle Id Digest Response :=
  Execution.run (step bounds) initial actions

/-- The issuer, handle and clock of the claim whose partition the action performs. -/
def opening (pool : Pool Guard Issuer Handle Id Digest Response) :
    Action Issuer Handle Id Digest Response → Option (Issuer × Handle × DateTime)
  | .spawn _ => none
  | .advance index =>
      match pool.threads[index]? with
      | some ⟨.claim issuer handle _ _ _ now, .begun⟩ => some (issuer, handle, now)
      | _ => none

/-- No partition finds empty, and so drops, a guard which another claim holds. -/
def KeepsHeld (pool : Pool Guard Issuer Handle Id Digest Response)
    (action : Action Issuer Handle Id Digest Response) : Prop :=
  ∀ start ∈ pool.opening action, ∀ holder ∈ pool.threads, ∀ arc ∈ holder.held,
    len (pool.record.purgedGuards start.2.2 arc) ≠ 0

instance (pool : Pool Guard Issuer Handle Id Digest Response)
    (action : Action Issuer Handle Id Digest Response) : Decidable (pool.KeepsHeld action) :=
  inferInstanceAs (Decidable (∀ start ∈ pool.opening action, ∀ holder ∈ pool.threads,
    ∀ arc ∈ holder.held, len (pool.record.purgedGuards start.2.2 arc) ≠ 0))

/-- A step adds a call, does nothing, or is the next step of one of the calls. -/
theorem step_cases (bounds : Bounds)
    (pool : Pool Guard Issuer Handle Id Digest Response)
    (action : Action Issuer Handle Id Digest Response) :
    (∃ call, action = .spawn call ∧
      pool.step bounds action = { pool with threads := pool.threads ++ [⟨call, .begun⟩] }) ∨
    pool.step bounds action = pool ∨
    ∃ index thread record phase events, action = .advance index ∧
      pool.threads[index]? = some thread ∧
      thread.Advanced bounds pool.record record phase events ∧
      pool.step bounds action =
        ⟨record, pool.threads.set index { thread with phase := phase }, pool.log ++ events⟩ := by
  cases action with
  | spawn call => exact .inl ⟨call, rfl, rfl⟩
  | advance index =>
      cases found : pool.threads[index]? with
      | none => exact .inr (.inl (by simp [step, found]))
      | some thread =>
          exact .inr (.inr ⟨index, thread, _, _, _, rfl, found,
            thread.advance_advanced bounds pool.record, by simp [step, found]⟩)

end Pool

/-! ## What a run keeps -/

theorem Thread.Advanced.leads {bounds : Bounds}
    {record later : ReplayRecord Guard Issuer Handle Id}
    {thread : Thread Issuer Handle Id Digest Response} {phase : Phase}
    {events : List (Event Issuer Id Digest)} {held : Arc → Prop}
    (advanced : thread.Advanced bounds record later phase events)
    (kept : ∀ issuer handle id digest retainUntil now,
      thread = ⟨.claim issuer handle id digest retainUntil now, .begun⟩ →
      ∀ arc, held arc → len (record.purgedGuards now arc) ≠ 0) : record.Leads later held := by
  cases advanced with
  | refused => exact ReplayRecord.partition_leads _ _ _ _ _ (kept _ _ _ _ _ _ rfl)
  | admitted => exact ReplayRecord.partition_leads _ _ _ _ _ (kept _ _ _ _ _ _ rfl)
  | claimed => apply ReplayRecord.leads_of_issuers_eq <;> rfl
  | stale => apply ReplayRecord.leads_of_issuers_eq <;> rfl
  | charged => apply ReplayRecord.leads_of_issuers_eq <;> rfl
  | uncharged => apply ReplayRecord.leads_of_issuers_eq <;> rfl
  | located => apply ReplayRecord.leads_of_issuers_eq <;> rfl
  | @closedOut _ _ _ _ response =>
      cases response <;> apply ReplayRecord.leads_of_issuers_eq <;> rfl
  | idle => apply ReplayRecord.leads_of_issuers_eq <;> rfl

section Lawful

variable [LawfulReplayGuard Guard]

theorem Thread.Advanced.wellFormed {bounds : Bounds}
    {record later : ReplayRecord Guard Issuer Handle Id}
    {thread : Thread Issuer Handle Id Digest Response} {phase : Phase}
    {events : List (Event Issuer Id Digest)}
    (advanced : thread.Advanced bounds record later phase events)
    (wellFormed : record.WellFormed bounds) : later.WellFormed bounds := by
  cases advanced with
  | refused => exact (ReplayRecord.partition_spec wellFormed _ _ _).1
  | admitted => exact (ReplayRecord.partition_spec wellFormed _ _ _).1
  | claimed => exact ReplayRecord.claimGuard_wellFormed wellFormed _ _ _ _ _
  | stale => exact ReplayRecord.claimGuard_wellFormed wellFormed _ _ _ _ _
  | charged => exact ReplayRecord.charge_wellFormed wellFormed _ _ _ _
  | uncharged => exact ReplayRecord.uncharge_wellFormed wellFormed _ _ _
  | located => exact wellFormed
  | closedOut => exact ReplayRecord.closeOut_wellFormed wellFormed _ _ _ _
  | idle => exact wellFormed

/-- A step leaves its own call anchored. -/
theorem Thread.Advanced.anchored {bounds : Bounds}
    {record later : ReplayRecord Guard Issuer Handle Id}
    {thread : Thread Issuer Handle Id Digest Response} {phase : Phase}
    {events : List (Event Issuer Id Digest)}
    (advanced : thread.Advanced bounds record later phase events)
    (wellFormed : record.WellFormed bounds) (anchored : thread.Anchored record) :
    ({ thread with phase := phase } : Thread Issuer Handle Id Digest Response).Anchored later := by
  cases advanced with
  | refused => trivial
  | @admitted issuer handle _ _ _ now arc answer =>
      rcases (ReplayRecord.partition_spec wellFormed issuer handle now).2.2 with
        refused | ⟨opened, allowed, room⟩
      · rw [answer] at refused
        cases refused
      · rw [answer] at allowed
        cases allowed
        exact room.found
  | claimed => trivial
  | stale => trivial
  | charged => trivial
  | uncharged => trivial
  | @located issuer _ _ _ _ _ =>
      rw [ReplayRecord.locate]
      cases found : record.issuers.lookup issuer with
      | none => trivial
      | some arc =>
          exact ⟨wellFormed.lookup_lt found, fun other found' =>
            wellFormed.issuer_unique found found'⟩
  | closedOut => trivial
  | idle => exact anchored

/-- The record is well-formed and every call in progress is anchored in it. -/
structure Pool.Anchored (bounds : Bounds) (pool : Pool Guard Issuer Handle Id Digest Response) :
    Prop where
  wellFormed : pool.record.WellFormed bounds
  threads : ∀ thread ∈ pool.threads, thread.Anchored pool.record

omit [DecidableEq Handle] [DecidableEq Id] [DecidableEq Digest] [LawfulReplayGuard Guard] in
theorem Pool.initial_anchored (bounds : Bounds) :
    (initial : Pool Guard Issuer Handle Id Digest Response).Anchored bounds where
  wellFormed := ReplayRecord.new_wellFormed bounds
  threads _ member := by cases member

theorem Pool.anchored_step {bounds : Bounds} {pool : Pool Guard Issuer Handle Id Digest Response}
    {action : Action Issuer Handle Id Digest Response} (anchored : pool.Anchored bounds)
    (kept : pool.KeepsHeld action) : (pool.step bounds action).Anchored bounds := by
  rcases pool.step_cases bounds action with ⟨call, rfl, stepped⟩ | stepped |
    ⟨index, thread, record, phase, events, rfl, found, advanced, stepped⟩
  · rw [stepped]
    refine ⟨anchored.wellFormed, fun other member => ?_⟩
    rcases List.mem_append.mp member with member | member
    · exact anchored.threads other member
    · cases List.mem_singleton.mp member
      trivial
  · rw [stepped]
    exact anchored
  · rw [stepped]
    -- What must survive the step is every address a call holds, not only the caller's own.
    have leads : pool.record.Leads record
        fun arc => ∃ holder ∈ pool.threads, arc ∈ holder.held := by
      apply advanced.leads
      rintro issuer handle id digest retainUntil now rfl arc ⟨holder, member, holds⟩
      exact kept (issuer, handle, now) (by simp [opening, found]) holder member arc holds
    refine ⟨advanced.wellFormed anchored.wellFormed, fun other member => ?_⟩
    rcases List.mem_or_eq_of_mem_set member with member | rfl
    · exact (anchored.threads other member).leads leads fun arc holds => ⟨other, member, holds⟩
    · exact advanced.anchored anchored.wellFormed
        (anchored.threads thread (List.mem_of_getElem? found))

/-- Whatever the calls do, the record they share stays well-formed. -/
theorem Pool.after_wellFormed (bounds : Bounds)
    (actions : List (Action Issuer Handle Id Digest Response)) :
    (after bounds actions : Pool Guard Issuer Handle Id Digest Response).record.WellFormed
      bounds := by
  have preserved : ∀ (pool : Pool Guard Issuer Handle Id Digest Response) action,
      pool.record.WellFormed bounds → (pool.step bounds action).record.WellFormed bounds := ?_
  · exact Execution.invariant_of_always preserved (ReplayRecord.new_wellFormed bounds) actions
  intro pool action wellFormed
  rcases pool.step_cases bounds action with ⟨call, rfl, stepped⟩ | stepped |
    ⟨index, thread, record, phase, events, rfl, found, advanced, stepped⟩
  · rw [stepped]
    exact wellFormed
  · rw [stepped]
    exact wellFormed
  · rw [stepped]
    exact advanced.wellFormed wellFormed

end Lawful

end PushGateway
