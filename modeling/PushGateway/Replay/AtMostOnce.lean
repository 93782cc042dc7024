import PushGateway.Replay.Concurrent

/-!
# At most one fresh answer under concurrency

While nothing expires and no budget is reached, a document is answered fresh at most once between
its releases, in every interleaving whose partitions keep the guards other claims hold.  Without
that condition it fails: a partition drops a guard which is still empty, although another claim
is about to enter its document there.
-/

namespace PushGateway

open ReplayGuard

variable {Guard Issuer Handle Id Digest Response : Type}

/-- The call reads the clock at this instant and asks for a retention beyond it. -/
def Call.Timely (instant : DateTime) : Call Issuer Handle Id Digest Response → Prop
  | .claim _ _ _ _ retainUntil now => now = instant ∧ unexpired retainUntil instant
  | .complete _ _ _ _ _ => True

/-- The action is timely if the call it spawns is. -/
def Action.Timely (instant : DateTime) : Action Issuer Handle Id Digest Response → Prop
  | .spawn call => call.Timely instant
  | .advance _ => True

instance (instant : DateTime) (call : Call Issuer Handle Id Digest Response) :
    Decidable (call.Timely instant) := by
  cases call <;> unfold Call.Timely <;> infer_instance

instance (instant : DateTime) (action : Action Issuer Handle Id Digest Response) :
    Decidable (action.Timely instant) := by
  cases action <;> unfold Action.Timely <;> infer_instance

/-! ## Entries which do not expire -/

/-- Every entry is retained beyond the instant. -/
def Ledger.LiveAt (instant : DateTime) (ledger : Ledger Issuer Handle Id Digest Response) : Prop :=
  ledger.Each fun _ retainUntil => unexpired retainUntil instant

theorem Ledger.LiveAt.entries_expire {instant : DateTime}
    {ledger : Ledger Issuer Handle Id Digest Response} (live : ledger.LiveAt instant) :
    (ledger.expire instant).entries = ledger.entries := by
  funext issuer id
  simp only [Ledger.expire]
  cases found : ledger.entries issuer id with
  | none => rfl
  | some entry =>
      have unexpired : entry.live instant := live issuer id entry found
      simp [Option.filter_some, unexpired]

/-! ## Fresh answers are accounted for by entries -/

variable [DecidableEq Issuer] [DecidableEq Id] [DecidableEq Digest]

/-- An unreleased fresh answer has its entry, and there is at most one for each document. -/
def Ledger.Accounted (ledger : Ledger Issuer Handle Id Digest Response)
    (log : List (Event Issuer Id Digest)) : Prop :=
  ∀ issuer id digest, unreleased issuer id digest log = 0 ∨
    (unreleased issuer id digest log = 1 ∧
      ∃ entry, ledger.entries issuer id = some entry ∧ entry.digest = digest)

namespace Ledger.Accounted

variable {ledger : Ledger Issuer Handle Id Digest Response} {log : List (Event Issuer Id Digest)}

theorem once (accounted : ledger.Accounted log) (issuer : Issuer) (id : Id) (digest : Digest) :
    unreleased issuer id digest log ≤ 1 := by
  rcases accounted issuer id digest with none | ⟨one, _⟩ <;> omega

theorem of_entries_eq {later : Ledger Issuer Handle Id Digest Response}
    (accounted : ledger.Accounted log) (same : later.entries = ledger.entries) :
    later.Accounted log := by
  intro issuer id digest
  rw [same]
  exact accounted issuer id digest

theorem enter (accounted : ledger.Accounted log) {issuer : Issuer} {id : Id}
    (absent : ledger.entries issuer id = none) (digest : Digest)
    (retainUntil : Option DateTime) :
    (ledger.enter issuer id digest retainUntil).Accounted (log ++ [.fresh issuer id digest]) := by
  intro other otherId otherDigest
  rw [unreleased_fresh]
  by_cases same : other = issuer ∧ otherId = id
  · obtain ⟨rfl, rfl⟩ := same
    rcases accounted other otherId otherDigest with none | ⟨_, entry, found, _⟩
    · rw [none]
      by_cases own : otherDigest = digest
      · exact .inr ⟨by simp [own], _, if_pos ⟨rfl, rfl⟩, own.symm⟩
      · exact .inl (by simp [own])
    · rw [absent] at found
      cases found
  · have apart : ¬(other = issuer ∧ otherId = id ∧ otherDigest = digest) := fun all =>
      same ⟨all.1, all.2.1⟩
    rw [if_neg apart, add_zero]
    simp only [Ledger.enter, if_neg same]
    exact accounted other otherId otherDigest

theorem recordResponse (accounted : ledger.Accounted log) (issuer : Issuer) (id : Id)
    (response : Response) : (ledger.recordResponse issuer id response).Accounted log := by
  intro other otherId otherDigest
  rcases accounted other otherId otherDigest with none | ⟨one, entry, found, digest⟩
  · exact .inl none
  · refine .inr ⟨one, ?_⟩
    simp only [Ledger.recordResponse, found, Option.map_some]
    split
    · exact ⟨_, rfl, digest⟩
    · exact ⟨entry, rfl, digest⟩

theorem released (accounted : ledger.Accounted log) (issuer : Issuer) (id : Id)
    (digest : Digest) : ledger.Accounted (log ++ [.released issuer id digest]) := by
  intro other otherId otherDigest
  rw [unreleased_released]
  rcases accounted other otherId otherDigest with none | ⟨one, present⟩
  · exact .inl (by omega)
  · rw [one]
    split
    · exact .inl rfl
    · exact .inr ⟨rfl, present⟩

/-- Taking an entry away is accounted for by the release which is logged with it. -/
theorem withdraw (accounted : ledger.Accounted log) {issuer : Issuer} {id : Id} {digest : Digest}
    {entry : Retained Digest Response} (found : ledger.entries issuer id = some entry)
    (same : entry.digest = digest) :
    (ledger.withdraw issuer id digest).Accounted (log ++ [.released issuer id digest]) := by
  intro other otherId otherDigest
  rw [unreleased_released]
  rcases accounted other otherId otherDigest with none | ⟨one, stored, present, stored_digest⟩
  · exact .inl (by omega)
  · rw [one]
    by_cases target : other = issuer ∧ otherId = id
    · obtain ⟨rfl, rfl⟩ := target
      rw [found, Option.some.injEq] at present
      subst present
      exact .inl (by simp [← same, stored_digest])
    · have apart : ¬(other = issuer ∧ otherId = id ∧ otherDigest = digest) := fun all =>
        target ⟨all.1, all.2.1⟩
      rw [if_neg apart]
      refine .inr ⟨rfl, stored, ?_, stored_digest⟩
      simpa [Ledger.withdraw, if_neg target] using present

end Ledger.Accounted

/-! ## Runs at one instant -/

variable [DecidableEq Handle] [ReplayGuard Guard Id Digest Response]

/-- No budget is reached. -/
def ReplayRecord.BelowBudgets (bounds : Bounds) (record : ReplayRecord Guard Issuer Handle Id) :
    Prop :=
  (∀ arc ∈ record.issuers.values, len (record.guards arc) < bounds.perIssuer) ∧
    (∀ charges ∈ record.handles.values, charges.length < bounds.perHandle) ∧
    record.totalHeld < bounds.total

instance (bounds : Bounds) (record : ReplayRecord Guard Issuer Handle Id) :
    Decidable (record.BelowBudgets bounds) := by
  unfold ReplayRecord.BelowBudgets
  infer_instance

/-- What a run at one instant keeps. -/
structure Pool.Timely (bounds : Bounds) (instant : DateTime)
    (pool : Pool Guard Issuer Handle Id Digest Response) : Prop where
  anchored : pool.Anchored bounds
  calls : ∀ thread ∈ pool.threads, thread.call.Timely instant
  live : pool.record.ledger.LiveAt instant
  accounted : pool.record.ledger.Accounted pool.log

theorem Pool.initial_timely (bounds : Bounds) (instant : DateTime) :
    (initial : Pool Guard Issuer Handle Id Digest Response).Timely bounds instant where
  anchored := initial_anchored bounds
  calls _ member := by cases member
  live _ _ _ found := by cases found
  accounted _ _ _ := .inl rfl

section Lawful

variable [LawfulReplayGuard Guard]

/-- The guard call of a claim accounts for its answer. -/
theorem Ledger.Accounted.claimGuard {bounds : Bounds} {instant : DateTime}
    {record : ReplayRecord Guard Issuer Handle Id} {log : List (Event Issuer Id Digest)}
    (wellFormed : record.WellFormed bounds) (live : record.ledger.LiveAt instant)
    (accounted : record.ledger.Accounted log) (below : record.BelowBudgets bounds)
    {issuer : Issuer} {arc : Arc} (found : record.issuers.lookup issuer = some arc) (id : Id)
    (digest : Digest) {retainUntil : Option DateTime} (retained : unexpired retainUntil instant) :
    (record.claimGuard arc id digest retainUntil instant).2.ledger.LiveAt instant ∧
      ((record.claimGuard arc id digest retainUntil instant).1 = .fresh →
        (record.claimGuard arc id digest retainUntil instant).2.ledger.Accounted
          (log ++ [.fresh issuer id digest])) ∧
      ((record.claimGuard arc id digest retainUntil instant).1 ≠ .fresh →
        (record.claimGuard arc id digest retainUntil instant).2.ledger.Accounted log) := by
  have live_own : ∀ other entry, record.entry issuer other = some entry → entry.live instant :=
    live issuer
  have room : len (record.guards arc) < capacity (record.guards arc) := by
    rw [wellFormed.capacity_eq arc (wellFormed.lookup_lt found)]
    have member := (AssocMap.mem_values_iff record.issuers arc).mpr ⟨issuer, found⟩
    exact (below.1 arc member).trans (Nat.lt_succ_self _)
  rw [ReplayRecord.ledger_claimGuard wellFormed found live_own room,
    ReplayRecord.claimGuard_verdict live_own found]
  cases kept : record.entry issuer id with
  | none =>
      exact ⟨live.enter retained issuer id,
        fun _ => accounted.enter kept digest retainUntil, fun stale => absurd rfl stale⟩
  | some entry =>
      refine ⟨live, fun verdict => ?_, fun _ => accounted⟩
      simp only at verdict
      split at verdict <;> cases verdict

/-- The guard call of a completion accounts for the release it logs. -/
theorem Ledger.Accounted.closeOut {bounds : Bounds} {instant : DateTime}
    {record : ReplayRecord Guard Issuer Handle Id} {log : List (Event Issuer Id Digest)}
    (wellFormed : record.WellFormed bounds) (live : record.ledger.LiveAt instant)
    (accounted : record.ledger.Accounted log) {issuer : Issuer} {arc : Arc}
    (own : ∀ other, record.issuers.lookup other = some arc → other = issuer) (id : Id)
    (digest : Digest) (response : Option Response) :
    (record.closeOut arc id digest response).ledger.LiveAt instant ∧
      (record.closeOut arc id digest response).ledger.Accounted
        (log ++ record.releases arc issuer id digest response) := by
  by_cases found : record.issuers.lookup issuer = some arc
  · rw [ReplayRecord.ledger_closeOut wellFormed found]
    cases response with
    | some response =>
        simp only [ReplayRecord.releases, List.append_nil]
        exact ⟨live.recordResponse issuer id response, accounted.recordResponse issuer id response⟩
    | none =>
        refine ⟨live.withdraw issuer id digest, ?_⟩
        simp only [ReplayRecord.releases, ← ReplayRecord.entry_of_lookup found]
        cases kept : record.entry issuer id with
        | none =>
            simp only [List.append_nil]
            rw [Ledger.withdraw_of_kept]
            · exact accounted
            · intro entry present
              cases kept.symm.trans present
        | some entry =>
            dsimp only
            split
            · rename_i released
              exact accounted.withdraw kept (Retained.releasedBy_iff.mp released).1
            · rename_i remains
              rw [List.append_nil, Ledger.withdraw_of_kept]
              · exact accounted
              · intro stored present
                cases kept.symm.trans present
                exact Bool.eq_false_iff.mpr remains
  · have unchanged : (record.closeOut arc id digest response).ledger.entries =
        record.ledger.entries := by
      funext other otherId
      exact ReplayRecord.entry_closeOut_of_dropped own found id digest response other otherId
    refine ⟨live.of_entries_eq unchanged, Accounted.of_entries_eq ?_ unchanged⟩
    cases response with
    | some response => simpa [ReplayRecord.releases] using accounted
    | none =>
        simp only [ReplayRecord.releases]
        split
        · split
          · exact accounted.released issuer id digest
          · simpa using accounted
        · simpa using accounted

theorem Thread.Advanced.timely {bounds : Bounds} {instant : DateTime}
    {record later : ReplayRecord Guard Issuer Handle Id}
    {thread : Thread Issuer Handle Id Digest Response} {phase : Phase}
    {log events : List (Event Issuer Id Digest)}
    (advanced : thread.Advanced bounds record later phase events)
    (wellFormed : record.WellFormed bounds) (anchored : thread.Anchored record)
    (call : thread.call.Timely instant) (below : record.BelowBudgets bounds)
    (live : record.ledger.LiveAt instant) (accounted : record.ledger.Accounted log) :
    later.ledger.LiveAt instant ∧ later.ledger.Accounted (log ++ events) := by
  -- A partition at the instant finds nothing expired, so the entries stay as they are.
  have opened : ∀ issuer handle,
      (record.partition bounds issuer handle instant).2.ledger.entries = record.ledger.entries := by
    intro issuer handle
    rw [(ReplayRecord.partition_spec wellFormed issuer handle instant).2.1]
    exact live.entries_expire
  cases advanced with
  | refused =>
      obtain ⟨rfl, _⟩ := call
      rw [List.append_nil]
      exact ⟨live.of_entries_eq (opened _ _), accounted.of_entries_eq (opened _ _)⟩
  | admitted =>
      obtain ⟨rfl, _⟩ := call
      rw [List.append_nil]
      exact ⟨live.of_entries_eq (opened _ _), accounted.of_entries_eq (opened _ _)⟩
  | claimed verdict =>
      obtain ⟨rfl, retained⟩ := call
      obtain ⟨after_live, fresh, _⟩ :=
        accounted.claimGuard wellFormed live below anchored _ _ retained
      exact ⟨after_live, fresh verdict⟩
  | stale verdict =>
      obtain ⟨rfl, retained⟩ := call
      obtain ⟨after_live, _, stale⟩ :=
        accounted.claimGuard wellFormed live below anchored _ _ retained
      rw [List.append_nil]
      exact ⟨after_live, stale verdict⟩
  | charged =>
      rw [List.append_nil]
      exact ⟨live.of_entries_eq rfl, accounted.of_entries_eq rfl⟩
  | uncharged =>
      rw [List.append_nil]
      exact ⟨live.of_entries_eq rfl, accounted.of_entries_eq rfl⟩
  | located =>
      rw [List.append_nil]
      exact ⟨live, accounted⟩
  | closedOut => exact accounted.closeOut wellFormed live anchored.2 _ _ _
  | idle =>
      rw [List.append_nil]
      exact ⟨live, accounted⟩

theorem Pool.timely_step {bounds : Bounds} {instant : DateTime}
    {pool : Pool Guard Issuer Handle Id Digest Response}
    {action : Action Issuer Handle Id Digest Response} (timely : pool.Timely bounds instant)
    (call : action.Timely instant) (below : pool.record.BelowBudgets bounds)
    (kept : pool.KeepsHeld action) : (pool.step bounds action).Timely bounds instant := by
  have anchored := anchored_step timely.anchored kept
  rcases pool.step_cases bounds action with ⟨spawned, rfl, stepped⟩ | stepped |
    ⟨index, thread, record, phase, events, rfl, found, advanced, stepped⟩
  · rw [stepped] at anchored ⊢
    refine ⟨anchored, fun other member => ?_, timely.live, timely.accounted⟩
    rcases List.mem_append.mp member with member | member
    · exact timely.calls other member
    · cases List.mem_singleton.mp member
      exact call
  · rw [stepped]
    exact timely
  · rw [stepped] at anchored ⊢
    have member := List.mem_of_getElem? found
    obtain ⟨live, accounted⟩ := advanced.timely timely.anchored.wellFormed
      (timely.anchored.threads thread member) (timely.calls thread member) below timely.live
      timely.accounted
    refine ⟨anchored, fun other inside => ?_, live, accounted⟩
    rcases List.mem_or_eq_of_mem_set inside with inside | rfl
    · exact timely.calls other inside
    · exact timely.calls thread member

/-- Of the claims of a document which no completion releases, at most one is answered fresh, in
every interleaving at one instant, below every budget, whose partitions drop no held guard. -/
theorem Pool.fresh_at_most_once (bounds : Bounds) (instant : DateTime)
    (actions : List (Action Issuer Handle Id Digest Response))
    (timely : ∀ action ∈ actions, action.Timely instant)
    (below : Execution.Along (step bounds) (fun pool _ => pool.record.BelowBudgets bounds)
      (initial : Pool Guard Issuer Handle Id Digest Response) actions)
    (kept : Execution.Along (step bounds) (fun pool action => pool.KeepsHeld action)
      (initial : Pool Guard Issuer Handle Id Digest Response) actions)
    (issuer : Issuer) (id : Id) (digest : Digest) :
    unreleased issuer id digest
      (after bounds actions : Pool Guard Issuer Handle Id Digest Response).log ≤ 1 := by
  have along := Execution.along_and.mpr
    ⟨Execution.along_of_forall_mem initial timely, Execution.along_and.mpr ⟨below, kept⟩⟩
  have finally_timely : (after bounds actions : Pool Guard Issuer Handle Id Digest Response).Timely
      bounds instant := by
    refine Execution.invariant (fun pool action timely met => ?_) (initial_timely bounds instant)
      along
    exact timely_step timely met.1 met.2.1 met.2.2
  exact finally_timely.accounted.once issuer id digest

end Lawful

/-! ## The race -/

private abbrev RacePool := Pool (ReferenceGuard Nat Nat Nat) Nat Nat Nat Nat Nat

private def redelivery : Call Nat Nat Nat Nat Nat := .claim 0 0 0 0 (some 1) 0

/-- The first claim enters its document before the second reads the map. -/
private def inTurn : List (Action Nat Nat Nat Nat Nat) :=
  [.spawn redelivery, .advance 0, .advance 0, .advance 0,
    .spawn redelivery, .advance 1, .advance 1]

/-- Both claims pass their partition before either enters its document. -/
private def race : List (Action Nat Nat Nat Nat Nat) :=
  [.spawn redelivery, .spawn redelivery, .advance 0, .advance 1, .advance 0, .advance 1]

theorem Pool.fresh_at_most_once_in_turn :
    unreleased 0 0 0 (Pool.after Bounds.default inTurn : RacePool).log ≤ 1 :=
  Pool.fresh_at_most_once Bounds.default 0 inTurn (by decide) (by decide) (by decide) 0 0 0

/-- The second partition finds the first claim's guard empty and drops it, so both claims of one
document are answered fresh. -/
theorem Pool.fresh_twice_in_race :
    ¬∀ (bounds : Bounds) (instant : DateTime) (actions : List (Action Nat Nat Nat Nat Nat)),
      (∀ action ∈ actions, action.Timely instant) →
      Execution.Along (step bounds) (fun pool _ => pool.record.BelowBudgets bounds)
        (initial : RacePool) actions →
      ∀ issuer id digest,
        unreleased issuer id digest (after bounds actions : RacePool).log ≤ 1 := by
  intro once
  have raced := once Bounds.default 0 race (by decide) (by decide) 0 0 0
  exact absurd raced (by decide)

end PushGateway
