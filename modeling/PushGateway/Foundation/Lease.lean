import Mathlib.Algebra.Order.Ring.Nat
import Mathlib.Data.List.Chain
import PushGateway.Foundation.Execution

/-!
# A credential cached behind a lock

Callers read the clock, take a lock, and reuse the cached credential while it is fresh by the clock
as they read it.  Otherwise they renew it by an exchange, during which they keep the lock.  An
exchange may fail, and a caller may be cancelled at any time.  Nothing is assumed of the clocks or
of the order in which callers get the lock.
-/

/-- What an exchange makes of a reply, and for how long that is fresh. -/
structure Lease (Reply Credential : Type) where
  /-- The credential got by an exchange, given the clock as its caller has read it. -/
  accept : Nat → Reply → Option Credential
  obtained : Credential → Nat
  lifetime : Credential → Nat
  obtained_accept : ∀ now reply credential,
    accept now reply = some credential → obtained credential = now

namespace Lease

variable {Reply Credential : Type}

/-! ## The steps -/

/-- How far a call has come, with the clock as it has read it. -/
inductive Phase (Credential : Type) where
  | waiting (now : Nat)
  /-- The lock is held. -/
  | exchanging (now : Nat)
  | served (now : Nat) (credential : Credential)
  | failed
  | cancelled
  deriving DecidableEq, Repr

/-- The cache, who holds the lock, and the calls so far. -/
structure Pool (Credential : Type) where
  cache : Option Credential
  holder : Option Nat
  callers : List (Phase Credential)
  deriving DecidableEq, Repr

/-- A call begins, gets the lock, ends its exchange or is cancelled. -/
inductive Action (Reply : Type) where
  /-- The clock may be unreadable. -/
  | arrive (clock : Option Nat)
  | acquire (index : Nat)
  | finish (index : Nat) (reply : Reply)
  | cancel (index : Nat)

/-- Nobody has called yet. -/
def Pool.unused : Pool Credential := ⟨none, none, []⟩

variable (lease : Lease Reply Credential)

/-- Still fresh; a clock which was read before it was obtained counts as just then. -/
def Fresh (now : Nat) (credential : Credential) : Prop :=
  now - lease.obtained credential < lease.lifetime credential

instance (now : Nat) (credential : Credential) : Decidable (lease.Fresh now credential) :=
  inferInstanceAs (Decidable (_ < _))

/-- The cached credential, if it is fresh. -/
def reusable (now : Nat) (cache : Option Credential) : Option Credential :=
  cache.filter fun credential => lease.Fresh now credential

def step (pool : Pool Credential) : Action Reply → Pool Credential
  | .arrive none => { pool with callers := pool.callers ++ [.failed] }
  | .arrive (some now) => { pool with callers := pool.callers ++ [.waiting now] }
  | .acquire index =>
      match pool.callers[index]?, pool.holder with
      | some (.waiting now), none =>
          match lease.reusable now pool.cache with
          | some credential =>
              -- The lock is given back at once.
              { pool with callers := pool.callers.set index (.served now credential) }
          | none =>
              { pool with
                holder := some index
                callers := pool.callers.set index (.exchanging now) }
      | _, _ => pool
  | .finish index reply =>
      match pool.callers[index]? with
      | some (.exchanging now) =>
          match lease.accept now reply with
          | some credential =>
              ⟨some credential, none, pool.callers.set index (.served now credential)⟩
          | none => ⟨pool.cache, none, pool.callers.set index .failed⟩
      | _ => pool
  | .cancel index =>
      match pool.callers[index]? with
      | some (.waiting _) => { pool with callers := pool.callers.set index .cancelled }
      | some (.exchanging _) => ⟨pool.cache, none, pool.callers.set index .cancelled⟩
      | _ => pool

/-- The credential which a step renews the cache with. -/
def renewed (pool : Pool Credential) : Action Reply → Option Credential
  | .finish index reply =>
      match pool.callers[index]? with
      | some (.exchanging now) => lease.accept now reply
      | _ => none
  | .arrive _ | .acquire _ | .cancel _ => none

/-- The credentials the cache was renewed with, in their order. -/
def renewals (pool : Pool Credential) (actions : List (Action Reply)) : List Credential :=
  Execution.events lease.renewed lease.step pool actions

/-! ## What a step can be -/

/-- The steps, by what they do to the cache and the lock. -/
inductive Stepped (pool : Pool Credential) : Action Reply → Option Credential →
    Pool Credential → Prop
  | idle (action : Action Reply) : Stepped pool action none pool
  | arrived {clock : Option Nat} {phase : Phase Credential}
      (begun : phase = .failed ∨ ∃ now, clock = some now ∧ phase = .waiting now) :
      Stepped pool (.arrive clock) none { pool with callers := pool.callers ++ [phase] }
  | reused {index now : Nat} {credential : Credential}
      (found : pool.callers[index]? = some (.waiting now)) (cached : pool.cache = some credential)
      (fresh : lease.Fresh now credential) :
      Stepped pool (.acquire index) none
        { pool with callers := pool.callers.set index (.served now credential) }
  | began {index now : Nat} (found : pool.callers[index]? = some (.waiting now))
      (free : pool.holder = none)
      (due : ∀ credential ∈ pool.cache, ¬lease.Fresh now credential) :
      Stepped pool (.acquire index) none
        { pool with holder := some index, callers := pool.callers.set index (.exchanging now) }
  | renewed {index now : Nat} {reply : Reply} {credential : Credential}
      (found : pool.callers[index]? = some (.exchanging now))
      (accepted : lease.accept now reply = some credential) :
      Stepped pool (.finish index reply) (some credential)
        ⟨some credential, none, pool.callers.set index (.served now credential)⟩
  | released {action : Action Reply} {index now : Nat} {phase : Phase Credential}
      (found : pool.callers[index]? = some (.exchanging now))
      (ended : phase = .failed ∨ phase = .cancelled) :
      Stepped pool action none ⟨pool.cache, none, pool.callers.set index phase⟩
  | left {index now : Nat} (found : pool.callers[index]? = some (.waiting now)) :
      Stepped pool (.cancel index) none
        { pool with callers := pool.callers.set index .cancelled }

theorem step_stepped (pool : Pool Credential) (action : Action Reply) :
    lease.Stepped pool action (lease.renewed pool action) (lease.step pool action) := by
  cases action with
  | arrive clock =>
      cases clock with
      | none => exact .arrived (.inl rfl)
      | some now => exact .arrived (.inr ⟨now, rfl, rfl⟩)
  | acquire index =>
      rw [step, renewed]
      split
      · rename_i now found free
        split
        · rename_i credential reused
          obtain ⟨cached, fresh⟩ := Option.filter_eq_some_iff.mp reused
          exact .reused found cached (of_decide_eq_true fresh)
        · rename_i unusable
          refine .began found free fun credential cached fresh => ?_
          exact Option.filter_eq_none_iff.mp unusable credential cached (decide_eq_true fresh)
      · exact .idle _
  | finish index reply =>
      rw [step, renewed]
      split
      · rename_i now found
        cases accepted : lease.accept now reply with
        | some credential => exact .renewed found accepted
        | none => exact .released found (.inl rfl)
      · exact .idle _
  | cancel index =>
      rw [step, renewed]
      split
      · rename_i now found
        exact .left found
      · rename_i now found
        exact .released found (.inr rfl)
      · exact .idle _

/-! ## What every run keeps -/

/-- The caller is in the middle of an exchange. -/
def Pool.Exchanging (pool : Pool Credential) (index : Nat) : Prop :=
  ∃ now, pool.callers[index]? = some (.exchanging now)

/-- What holds of the cache, the lock and the calls, given the renewals so far. -/
structure Sound (renewals : List Credential) (pool : Pool Credential) : Prop where
  /-- Nothing but a renewal changes the cache. -/
  cached : pool.cache = renewals.getLast?
  /-- The lock is held just by the one caller whose exchange is in flight. -/
  held : ∀ index, pool.holder = some index ↔ pool.Exchanging index
  /-- An exchange in flight is needed. -/
  due : ∀ now, .exchanging now ∈ pool.callers →
    ∀ credential ∈ pool.cache, ¬lease.Fresh now credential
  /-- The cache is not renewed before its credential has lapsed. -/
  spaced : renewals.IsChain fun earlier later =>
    lease.lifetime earlier ≤ lease.obtained later - lease.obtained earlier
  /-- A credential is served fresh, or by the exchange which got it. -/
  served : ∀ now credential, .served now credential ∈ pool.callers →
    credential ∈ renewals ∧ (lease.obtained credential = now ∨ lease.Fresh now credential)

variable {lease}

theorem sound_unused : lease.Sound [] (Pool.unused : Pool Credential) where
  cached := rfl
  held index := by
    constructor
    · nofun
    · rintro ⟨now, found⟩
      cases found
  due _ inside := by cases inside
  spaced := .nil
  served _ _ inside := by cases inside

/-- Who is exchanging after one caller has moved on. -/
theorem exchanging_set {pool : Pool Credential} {index : Nat} {phase next : Phase Credential}
    (found : pool.callers[index]? = some phase) (other : Nat) (cache : Option Credential)
    (holder : Option Nat) :
    (⟨cache, holder, pool.callers.set index next⟩ : Pool Credential).Exchanging other ↔
      if other = index then ∃ now, next = .exchanging now else pool.Exchanging other := by
  obtain ⟨below, -⟩ := List.getElem?_eq_some_iff.mp found
  simp only [Pool.Exchanging, List.getElem?_set]
  by_cases same : index = other
  · subst same
    simp [below]
  · simp [same, Ne.symm same]

/-- A caller who was not exchanging and is not now changes nothing of who is. -/
theorem Sound.held_set {renewals : List Credential} {pool : Pool Credential}
    (sound : lease.Sound renewals pool) {index : Nat} {phase next : Phase Credential}
    (found : pool.callers[index]? = some phase) (before : ∀ now, phase ≠ .exchanging now)
    (after : ∀ now, next ≠ .exchanging now) (other : Nat) :
    pool.holder = some other ↔
      (⟨pool.cache, pool.holder, pool.callers.set index next⟩ : Pool Credential).Exchanging
        other := by
  rw [exchanging_set found, sound.held]
  split
  · rename_i same
    subst same
    constructor
    · rintro ⟨now, exchanging⟩
      rw [found] at exchanging
      exact absurd (Option.some.inj exchanging) (before now)
    · rintro ⟨now, exchanging⟩
      exact absurd exchanging (after now)
  · exact Iff.rfl

/-- Once the one exchange has ended, none is in flight. -/
theorem Sound.ended {renewals : List Credential} {pool : Pool Credential}
    (sound : lease.Sound renewals pool) {index now : Nat} {next : Phase Credential}
    (found : pool.callers[index]? = some (.exchanging now)) (after : ∀ now, next ≠ .exchanging now)
    (now' : Nat) : .exchanging now' ∉ pool.callers.set index next := by
  intro inside
  obtain ⟨other, at_other⟩ := List.getElem?_of_mem inside
  have exchanging : (⟨none, none, pool.callers.set index next⟩ : Pool Credential).Exchanging
      other := ⟨now', at_other⟩
  rw [exchanging_set found] at exchanging
  split at exchanging
  · obtain ⟨now, same⟩ := exchanging
    exact after now same
  · rename_i different
    have own := (sound.held index).mpr ⟨now, found⟩
    rw [(sound.held other).mpr exchanging] at own
    exact different (Option.some.inj own)

theorem not_exchanging_of_notMem {pool : Pool Credential}
    (none_left : ∀ now, .exchanging now ∉ pool.callers) (index : Nat) : ¬pool.Exchanging index := by
  rintro ⟨now, found⟩
  exact none_left now (List.mem_of_getElem? found)

theorem Sound.step {renewals : List Credential} {pool after : Pool Credential}
    {action : Action Reply} {renewal : Option Credential} (sound : lease.Sound renewals pool)
    (stepped : lease.Stepped pool action renewal after) :
    lease.Sound (renewals ++ renewal.toList) after := by
  cases stepped with
  | idle => simpa using sound
  | arrived begun =>
      rename_i clock phase
      have quiet : ∀ now, phase ≠ .exchanging now := by
        obtain rfl | ⟨now, _, rfl⟩ := begun <;> simp
      have unserved : ∀ now credential, phase ≠ .served now credential := by
        obtain rfl | ⟨now, _, rfl⟩ := begun <;> simp
      rw [Option.toList_none, List.append_nil]
      refine ⟨sound.cached, fun index => ?_, fun now inside => ?_, sound.spaced,
        fun now credential inside => ?_⟩
      · rw [sound.held]
        constructor
        · rintro ⟨now, found⟩
          obtain ⟨below, -⟩ := List.getElem?_eq_some_iff.mp found
          exact ⟨now, (List.getElem?_append_left below).trans found⟩
        · rintro ⟨now, found⟩
          rw [List.getElem?_append] at found
          split at found
          · exact ⟨now, found⟩
          · have member : Phase.exchanging now ∈ [phase] := List.mem_of_getElem? found
            exact absurd (List.mem_singleton.mp member).symm (quiet now)
      · obtain before | same := List.mem_append.mp inside
        · exact sound.due now before
        · exact absurd (List.mem_singleton.mp same).symm (quiet now)
      · obtain before | same := List.mem_append.mp inside
        · exact sound.served now credential before
        · exact absurd (List.mem_singleton.mp same).symm (unserved now credential)
  | reused found cached fresh =>
      rename_i index now credential
      rw [Option.toList_none, List.append_nil]
      refine ⟨sound.cached, sound.held_set found (by simp) (by simp), fun now inside => ?_,
        sound.spaced, fun now other inside => ?_⟩
      · obtain before | same := List.mem_or_eq_of_mem_set inside
        · exact sound.due now before
        · cases same
      · obtain before | same := List.mem_or_eq_of_mem_set inside
        · exact sound.served now other before
        · cases same
          have last : renewals.getLast? = some credential := sound.cached.symm.trans cached
          exact ⟨List.mem_of_getLast? last, .inr fresh⟩
  | began found free due =>
      rename_i index now
      rw [Option.toList_none, List.append_nil]
      refine ⟨sound.cached, fun other => ?_, fun now' inside => ?_, sound.spaced,
        fun now other inside => ?_⟩
      · rw [exchanging_set found, ← sound.held, free]
        split
        · rename_i same
          simp [same]
        · rename_i different
          simp [Ne.symm different]
      · obtain before | same := List.mem_or_eq_of_mem_set inside
        · exact sound.due now' before
        · cases same
          exact due
      · obtain before | same := List.mem_or_eq_of_mem_set inside
        · exact sound.served now other before
        · cases same
  | renewed found accepted =>
      rename_i index now reply credential
      have obtained := lease.obtained_accept now reply credential accepted
      have none_left : ∀ now', .exchanging now' ∉ pool.callers.set index (.served now credential) :=
        sound.ended found (by simp)
      refine ⟨by simp, fun other => ?_, fun now' inside => absurd inside (none_left now'), ?_,
        fun now' other inside => ?_⟩
      · exact ⟨nofun, fun exchanging =>
          absurd exchanging (not_exchanging_of_notMem none_left other)⟩
      · refine List.IsChain.append sound.spaced (List.isChain_singleton _) ?_
        intro earlier last later first
        rw [← sound.cached] at last
        cases first
        rw [obtained]
        exact Nat.not_lt.mp (sound.due now (List.mem_of_getElem? found) earlier last)
      · obtain before | same := List.mem_or_eq_of_mem_set inside
        · obtain ⟨member, usable⟩ := sound.served now' other before
          exact ⟨List.mem_append_left _ member, usable⟩
        · cases same
          exact ⟨by simp, .inl obtained⟩
  | released found ended =>
      rename_i index now phase
      have quiet : ∀ now, phase ≠ .exchanging now := by
        obtain rfl | rfl := ended <;> simp
      have none_left := sound.ended found quiet
      rw [Option.toList_none, List.append_nil]
      refine ⟨sound.cached, fun other => ?_, fun now' inside => absurd inside (none_left now'),
        sound.spaced, fun now' other inside => ?_⟩
      · exact ⟨nofun, fun exchanging =>
          absurd exchanging (not_exchanging_of_notMem none_left other)⟩
      · obtain before | same := List.mem_or_eq_of_mem_set inside
        · exact sound.served now' other before
        · obtain rfl | rfl := ended <;> cases same
  | left found =>
      rw [Option.toList_none, List.append_nil]
      refine ⟨sound.cached, sound.held_set found (by simp) (by simp), fun now inside => ?_,
        sound.spaced, fun now other inside => ?_⟩
      · obtain before | same := List.mem_or_eq_of_mem_set inside
        · exact sound.due now before
        · cases same
      · obtain before | same := List.mem_or_eq_of_mem_set inside
        · exact sound.served now other before
        · cases same

/-- Every run of an unused cache. -/
theorem sound_run (lease : Lease Reply Credential) (actions : List (Action Reply)) :
    lease.Sound (lease.renewals .unused actions)
      (Execution.run lease.step .unused actions) :=
  Execution.invariant_events
    (fun _ pool action sound (_ : True) => sound.step (lease.step_stepped pool action))
    sound_unused (Execution.along_of_forall_mem _ fun _ _ => trivial)

/-- Every credential was made of a reply. -/
theorem accepted_of_mem_renewals {pool : Pool Credential} {actions : List (Action Reply)}
    {credential : Credential} (member : credential ∈ lease.renewals pool actions) :
    ∃ now reply, lease.accept now reply = some credential := by
  obtain ⟨front, action, back, -, happens⟩ := Execution.exists_of_mem_events member
  have stepped := lease.step_stepped (Execution.run lease.step pool front) action
  rw [happens] at stepped
  generalize lease.step (Execution.run lease.step pool front) action = after at stepped
  cases stepped with
  | renewed found accepted => exact ⟨_, _, accepted⟩

/-! ## Where the instants come from -/

/-- The clock as a new caller has read it. -/
def Action.reading : Action Reply → Option Nat
  | .arrive clock => clock
  | .acquire _ | .finish _ _ | .cancel _ => none

/-- The clock as a caller has read it who is not done. -/
def Phase.reading : Phase Credential → Option Nat
  | .waiting now | .exchanging now => some now
  | .served _ _ | .failed | .cancelled => none

/-- Every instant is one which a caller has read from the clock. -/
structure Read (lease : Lease Reply Credential) (read : Nat → Prop) (renewals : List Credential)
    (pool : Pool Credential) : Prop where
  callers : ∀ phase ∈ pool.callers, ∀ now ∈ phase.reading, read now
  renewals : ∀ credential ∈ renewals, read (lease.obtained credential)

theorem Read.step {read : Nat → Prop} {renewals : List Credential} {pool : Pool Credential}
    (known : Read lease read renewals pool) {action : Action Reply}
    (reads : ∀ now ∈ action.reading, read now) :
    Read lease read (renewals ++ (lease.renewed pool action).toList) (lease.step pool action) := by
  have moved : ∀ {index : Nat} {next : Phase Credential} (_ : ∀ now ∈ next.reading, read now),
      ∀ phase ∈ pool.callers.set index next, ∀ now ∈ phase.reading, read now :=
    fun own => Execution.forall_mem_set known.callers own
  have stepped := lease.step_stepped pool action
  generalize lease.renewed pool action = renewal, lease.step pool action = after at stepped ⊢
  cases stepped with
  | idle => simpa using known
  | arrived begun =>
      refine ⟨fun phase inside now reading => ?_, by simpa using known.renewals⟩
      obtain before | same := List.mem_append.mp inside
      · exact known.callers phase before now reading
      · rw [List.mem_singleton.mp same] at reading
        obtain rfl | ⟨other, arrived, rfl⟩ := begun
        · cases reading
        · cases reading
          exact reads now arrived
  | reused found cached fresh => exact ⟨moved nofun, by simpa using known.renewals⟩
  | began found free due =>
      have own : ∀ now' ∈ (Phase.waiting _ : Phase Credential).reading, read now' :=
        known.callers _ (List.mem_of_getElem? found)
      exact ⟨moved own, by simpa using known.renewals⟩
  | renewed found accepted =>
      refine ⟨moved nofun, fun credential member => ?_⟩
      obtain before | same := by simpa using member
      · exact known.renewals credential before
      · subst same
        rw [lease.obtained_accept _ _ _ accepted]
        exact known.callers _ (List.mem_of_getElem? found) _ rfl
  | released found ended =>
      refine ⟨moved ?_, by simpa using known.renewals⟩
      obtain rfl | rfl := ended <;> exact nofun
  | left found => exact ⟨moved nofun, by simpa using known.renewals⟩

/-- Every run of an unused cache, with what holds of all the readings. -/
theorem read_run (lease : Lease Reply Credential) {read : Nat → Prop}
    {actions : List (Action Reply)}
    (reads : ∀ action ∈ actions, ∀ now ∈ action.reading, read now) :
    Read lease read (lease.renewals .unused actions)
      (Execution.run lease.step .unused actions) :=
  Execution.invariant_events (fun _ _ _ known reads => known.step reads)
    ⟨by simp [Pool.unused], by simp⟩ (Execution.along_of_forall_mem _ reads)

/-! ## How often the cache is renewed -/

/-- Renewals of credentials which last at least so long are so far apart. -/
theorem obtained_add_le {renewals : List Credential} {credential : Credential} {least latest : Nat}
    (spaced : (credential :: renewals).IsChain fun earlier later =>
      lease.lifetime earlier ≤ lease.obtained later - lease.obtained earlier)
    (positive : 0 < least) (lasts : ∀ other ∈ credential :: renewals, least ≤ lease.lifetime other)
    (until_latest : ∀ other ∈ credential :: renewals, lease.obtained other ≤ latest) :
    lease.obtained credential + least * renewals.length ≤ latest := by
  induction renewals generalizing credential with
  | nil => simpa using until_latest credential List.mem_cons_self
  | cons next renewals induction =>
      have apart := (List.isChain_cons_cons.mp spaced).1
      have long := lasts credential List.mem_cons_self
      have later := induction (List.isChain_cons_cons.mp spaced).2
        (fun other member => lasts other (List.mem_cons_of_mem _ member))
        (fun other member => until_latest other (List.mem_cons_of_mem _ member))
      rw [List.length_cons, Nat.mul_add_one]
      omega

/-- In a span of time there are no more renewals than fit into it. -/
theorem length_renewals_le {renewals : List Credential} {least earliest latest : Nat}
    (spaced : renewals.IsChain fun earlier later =>
      lease.lifetime earlier ≤ lease.obtained later - lease.obtained earlier)
    (lasts : ∀ credential ∈ renewals, least ≤ lease.lifetime credential)
    (within : ∀ credential ∈ renewals,
      earliest ≤ lease.obtained credential ∧ lease.obtained credential ≤ latest) :
    least * (renewals.length - 1) ≤ latest - earliest := by
  cases renewals with
  | nil => simp
  | cons credential renewals =>
      obtain rfl | positive := Nat.eq_zero_or_pos least
      · simp
      · have upto := obtained_add_le spaced positive lasts fun other member =>
          (within other member).2
        have from_earliest := (within credential List.mem_cons_self).1
        rw [List.length_cons, Nat.add_sub_cancel]
        omega

end Lease
