import PushGateway.Foundation.WriteBehind

/-!
# Recovery of a map written behind to a file

The process may crash at any step and read its map again from the file.  While no two flushes write
at a time, the file is always some map as a flush serialised it, and between operations the flag is
up whenever the map in memory differs from it.
-/

namespace WriteBehind

variable {Map Call Byte : Type} {design : WriteBehind Map Call Byte}
  {agrees : Option (List Byte) → Map → Prop}

/-! ## Crashes -/

/-- An action, or a crash: the map is lost and read again from the file. -/
inductive Event (Call : Type) where
  | act (action : Action Call)
  | crash
  deriving DecidableEq, Repr

/-- What an event does. -/
def happen (design : WriteBehind Map Call Byte) (reopen : Option (List Byte) → Map)
    (pool : Pool Map Call Byte) : Event Call → Pool Map Call Byte
  | .act action => design.step pool action
  | .crash =>
      ⟨{ pool.shared with map := reopen pool.shared.content, dirty := false }, []⟩

/-- The map of the snapshot which an event renames into place. -/
def renamed (pool : Pool Map Call Byte) : Event Call → Option Map
  | .act (.advance index turn) =>
      if turn = .fails then none
      else (pool.phases[index]?.bind Phase.publishing).bind fun snapshot =>
        pool.shared.serialised[snapshot.turn]?
  | .act (.mutate _) | .act .flush | .crash => none

/-- The map of the snapshot which was renamed into place last in a run, if any was. -/
def lastRenamed (design : WriteBehind Map Call Byte) (reopen : Option (List Byte) → Map) :
    Pool Map Call Byte → List (Event Call) → Option Map
  | _, [] => none
  | pool, event :: events =>
      (lastRenamed design reopen (design.happen reopen pool event) events).or (renamed pool event)

theorem kept_happen {pool : Pool Map Call Byte} (kept : design.Kept pool)
    (reopen : Option (List Byte) → Map) (event : Event Call) :
    design.Kept (design.happen reopen pool event) := by
  cases event with
  | act action => exact kept_step kept action
  | crash =>
      refine ⟨fun snapshot present => kept.taken snapshot (.inl ?_), fun phase inside => ?_⟩
      · obtain in_file | ⟨phase, inside, _⟩ := present
        · exact in_file
        · cases inside
      · cases inside

/-- Only a rename changes the file, to the map which its flush serialised. -/
theorem content_happen {pool : Pool Map Call Byte} (kept : design.Kept pool)
    (reopen : Option (List Byte) → Map) (event : Event Call) :
    (design.happen reopen pool event).shared.content =
      ((renamed pool event).map design.serialise).or pool.shared.content := by
  cases event with
  | crash => rfl
  | act action =>
      cases action with
      | mutate call => rfl
      | flush => rfl
      | advance index turn =>
          simp only [happen, step, renamed]
          cases found : pool.phases[index]? with
          | none => simp
          | some phase =>
              have member := List.mem_of_getElem? found
              cases phase with
              | storing next snapshot temp =>
                  cases next with
                  | rename =>
                      have whole : temp = snapshot.bytes :=
                        (kept.faithful _ member).2 (.inr rfl)
                      have taken := kept.taken snapshot (.inr ⟨_, member, rfl⟩)
                      cases turn <;>
                        simp [advance, Phase.publishing, Shared.content, taken, whole]
                  | _ => cases turn <;> simp [advance, Phase.publishing, Shared.content]
              | calling call =>
                  simp only [advance]
                  cases design.change call pool.shared.map <;>
                    simp [Phase.publishing, Shared.content]
              | flushing =>
                  simp only [advance]
                  cases pool.shared.dirty <;> simp [Phase.publishing, Shared.content]
              | _ => simp [advance, Phase.publishing, Shared.content]

/-- The file is what was renamed into place last, or what it was before the run. -/
theorem content_run (reopen : Option (List Byte) → Map) {pool : Pool Map Call Byte}
    (kept : design.Kept pool) (events : List (Event Call)) :
    (Execution.run (design.happen reopen) pool events).shared.content =
      ((design.lastRenamed reopen pool events).map design.serialise).or pool.shared.content := by
  induction events generalizing pool with
  | nil => rfl
  | cons event events induction =>
      rw [Execution.run_cons, induction (kept_happen kept reopen event),
        content_happen kept reopen event, lastRenamed]
      cases design.lastRenamed reopen (design.happen reopen pool event) events with
      | none => rfl
      | some map => rfl

/-- No flush takes the flag down while another has taken it and not yet ended its write. -/
def FlushesApart (pool : Pool Map Call Byte) : Event Call → Prop
  | .act action => Apart pool action
  | .crash => True

instance (pool : Pool Map Call Byte) : DecidablePred (FlushesApart pool)
  | .act action => inferInstanceAs (Decidable (Apart pool action))
  | .crash => isTrue trivial

/-- Nothing begins before everything else has ended. -/
def OneAtATime (pool : Pool Map Call Byte) : Event Call → Prop
  | .act (.mutate _) | .act .flush => pool.Idle
  | .act (.advance _ _) | .crash => True

instance (pool : Pool Map Call Byte) : DecidablePred (OneAtATime pool)
  | .act (.mutate _) | .act .flush => inferInstanceAs (Decidable pool.Idle)
  | .act (.advance _ _) | .crash => isTrue trivial

/-- At most one mutation or flush is in progress. -/
def Pool.Lone (pool : Pool Map Call Byte) : Prop := pool.phases.countP Phase.active ≤ 1

theorem Pool.Idle.countP_active {pool : Pool Map Call Byte} (idle : pool.Idle) :
    pool.phases.countP Phase.active = 0 := by
  rw [List.countP_eq_zero]
  intro phase member
  simp [idle phase member]

/-- A lone flush begins while no other writes. -/
theorem Pool.Lone.apart {pool : Pool Map Call Byte} (lone : pool.Lone) (action : Action Call) :
    Apart pool action := by
  cases action with
  | mutate call => trivial
  | flush => trivial
  | advance index turn =>
      intro found up
      have active := Execution.countP_set_add found .done Phase.active
      have writing := Execution.countP_set_add found .done Phase.writing
      have weaker : (pool.phases.set index .done).countP Phase.writing ≤
          (pool.phases.set index .done).countP Phase.active := by
        refine List.countP_mono_left fun phase inside writes => ?_
        cases phase with
        | done => cases writes
        | _ => rfl
      simp only [Phase.active, Phase.writing, if_true, Bool.false_eq_true, if_false]
        at active writing
      have most : pool.phases.countP Phase.active ≤ 1 := lone
      omega

theorem lone_step {pool : Pool Map Call Byte} {action : Action Call} (lone : pool.Lone)
    (one : OneAtATime pool (.act action)) : (design.step pool action).Lone := by
  cases action with
  | mutate call =>
      have none_active := Pool.Idle.countP_active one
      simp [Pool.Lone, step, none_active, Phase.active]
  | flush =>
      have none_active := Pool.Idle.countP_active one
      simp [Pool.Lone, step, none_active, Phase.active]
  | advance index turn =>
      rw [step]
      cases found : pool.phases[index]? with
      | none => exact lone
      | some phase =>
          have counted := Execution.countP_set_add found
            (design.advance turn pool.shared phase).2 Phase.active
          have before : pool.phases.countP Phase.active ≤ 1 := lone
          have awake : (design.advance turn pool.shared phase).2.active = true →
              phase.active = true := by
            cases phase with
            | done => exact id
            | _ => exact fun _ => rfl
          have most : (pool.phases.set index (design.advance turn pool.shared phase).2).countP
              Phase.active ≤ 1 := by
            by_cases active : (design.advance turn pool.shared phase).2.active = true
            · simp only [active, awake active, if_true] at counted
              omega
            · simp only [active, Bool.false_eq_true, if_false] at counted
              omega
          exact most

/-- Operations which are made one at a time keep their flushes apart. -/
theorem apart_of_oneAtATime {reopen : Option (List Byte) → Map} {pool : Pool Map Call Byte}
    {events : List (Event Call)} (lone : pool.Lone)
    (along : Execution.Along (design.happen reopen) OneAtATime pool events) :
    Execution.Along (design.happen reopen) FlushesApart pool events := by
  have preserved : ∀ pool event, pool.Lone → OneAtATime pool event →
      (design.happen reopen pool event).Lone := by
    intro pool event lone one
    cases event with
    | act action => exact lone_step lone one
    | crash => exact Nat.zero_le 1
  refine Execution.along_mono (fun pool event both => ?_)
    (Execution.along_with_invariant preserved lone along)
  cases event with
  | act action => exact both.1.apart action
  | crash => trivial

/-- What reading the file back gives: a good map which agrees with it.  Calls of a certain kind keep
a map good. -/
structure Restores (design : WriteBehind Map Call Byte) (reopen : Option (List Byte) → Map)
    (agrees : Option (List Byte) → Map → Prop) (good : Map → Prop) (accepted : Call → Prop) :
    Prop where
  written : ∀ map, agrees (some (design.serialise map)) map
  missing : agrees none (reopen none) ∧ good (reopen none)
  restored : ∀ map, good map → agrees (some (design.serialise map))
    (reopen (some (design.serialise map))) ∧ good (reopen (some (design.serialise map)))
  changed : ∀ call map after, accepted call → good map → design.change call map = some after →
    good after

variable {reopen : Option (List Byte) → Map} {good : Map → Prop} {accepted : Call → Prop}

/-- Only accepted mutations begin. -/
def Event.Accepted (accepted : Call → Prop) : Event Call → Prop
  | .act (.mutate call) => accepted call
  | .act .flush | .act (.advance _ _) | .crash => True

instance [DecidablePred accepted] : DecidablePred (Event.Accepted accepted)
  | .act (.mutate call) => inferInstanceAs (Decidable (accepted call))
  | .act .flush | .act (.advance _ _) | .crash => isTrue trivial

/-- What holds of a process which is restarted from its file. -/
structure Recoverable (design : WriteBehind Map Call Byte)
    (agrees : Option (List Byte) → Map → Prop) (good : Map → Prop) (accepted : Call → Prop)
    (pool : Pool Map Call Byte) : Prop where
  kept : design.Kept pool
  settled : design.Settled agrees pool
  single : Single pool
  current_good : good pool.shared.map
  serialised_good : ∀ map ∈ pool.shared.serialised, good map
  called : ∀ call, .calling call ∈ pool.phases → accepted call

/-- The process started on a missing file, or restarted on one which a flush has written. -/
theorem Recoverable.reopened (restores : design.Restores reopen agrees good accepted)
    {file : Option (Snapshot Byte)} {serialised : List Map}
    (taken : ∀ snapshot, file = some snapshot →
      (serialised[snapshot.turn]?).map design.serialise = some snapshot.bytes)
    (serialised_good : ∀ map ∈ serialised, good map) :
    design.Recoverable agrees good accepted
      ⟨⟨reopen (file.map Snapshot.bytes), false, file, serialised⟩, []⟩ := by
  have read : agrees (file.map Snapshot.bytes) (reopen (file.map Snapshot.bytes)) ∧
      good (reopen (file.map Snapshot.bytes)) := by
    cases file with
    | none => exact restores.missing
    | some snapshot =>
        obtain ⟨map, found, bytes⟩ := Option.map_eq_some_iff.mp (taken snapshot rfl)
        rw [Option.map_some, ← bytes]
        exact restores.restored map (serialised_good map (List.mem_of_getElem? found))
  refine
    { kept := ⟨fun snapshot present => ?_, fun phase inside => by cases inside⟩
      settled := .stored read.1 fun phase inside => by cases inside
      single := ⟨Nat.zero_le _, fun phase inside => by cases inside⟩
      current_good := read.2
      serialised_good := serialised_good
      called := fun call inside => by cases inside }
  obtain in_file | ⟨phase, inside, _⟩ := present
  · exact taken snapshot in_file
  · cases inside

theorem Recoverable.crash (restores : design.Restores reopen agrees good accepted)
    {pool : Pool Map Call Byte} (recoverable : design.Recoverable agrees good accepted pool) :
    design.Recoverable agrees good accepted (design.happen reopen pool .crash) :=
  .reopened restores (fun snapshot in_file => recoverable.kept.taken snapshot (.inl in_file))
    recoverable.serialised_good

theorem Advanced.keeps_good {shared shared' : Shared Map Byte} {phase next : Phase Call Byte}
    (advanced : design.Advanced shared phase shared' next) (current : good shared.map)
    (earlier : ∀ map ∈ shared.serialised, good map)
    (changes : ∀ call after, phase = .calling call →
      design.change call shared.map = some after → good after) :
    good shared'.map ∧ (∀ map ∈ shared'.serialised, good map) ∧ ∀ call, next ≠ .calling call := by
  cases advanced with
  | changed change => exact ⟨changes _ _ rfl change, earlier, nofun⟩
  | serialised =>
      refine ⟨current, fun map inside => ?_, nofun⟩
      obtain before | rfl := by simpa using inside
      · exact earlier map before
      · exact current
  | _ => exact ⟨current, earlier, nofun⟩

theorem Recoverable.goods (restores : design.Restores reopen agrees good accepted)
    {pool : Pool Map Call Byte} (recoverable : design.Recoverable agrees good accepted pool)
    {action : Action Call} (accepts : (Event.act action).Accepted accepted) :
    let after := design.step pool action
    good after.shared.map ∧ (∀ map ∈ after.shared.serialised, good map) ∧
      ∀ call, .calling call ∈ after.phases → accepted call := by
  cases action with
  | mutate call =>
      refine ⟨recoverable.current_good, recoverable.serialised_good, fun other inside => ?_⟩
      obtain before | same := by simpa [step] using inside
      · exact recoverable.called other before
      · exact same ▸ accepts
  | flush =>
      refine ⟨recoverable.current_good, recoverable.serialised_good, fun other inside => ?_⟩
      exact recoverable.called other (by simpa [step] using inside)
  | advance index turn =>
      simp only [step]
      cases found : pool.phases[index]? with
      | none =>
          exact ⟨recoverable.current_good, recoverable.serialised_good, recoverable.called⟩
      | some phase =>
          obtain ⟨current, earlier, begun⟩ :=
            (design.advance_advanced turn pool.shared phase).keeps_good recoverable.current_good
              recoverable.serialised_good fun call after same change =>
                restores.changed call pool.shared.map after
                  (recoverable.called call (same ▸ List.mem_of_getElem? found))
                  recoverable.current_good change
          refine ⟨current, earlier, fun call inside => ?_⟩
          obtain before | same := List.mem_or_eq_of_mem_set inside
          · exact recoverable.called call before
          · exact absurd same.symm (begun call)

theorem Recoverable.act (restores : design.Restores reopen agrees good accepted)
    {pool : Pool Map Call Byte} (recoverable : design.Recoverable agrees good accepted pool)
    {action : Action Call} (apart : Apart pool action)
    (accepts : (Event.act action).Accepted accepted) :
    design.Recoverable agrees good accepted (design.step pool action) where
  kept := kept_step recoverable.kept action
  settled := settled_step restores.written recoverable.kept recoverable.settled
    (recoverable.single.inOrder action)
  single := single_step recoverable.kept recoverable.single apart
  current_good := (recoverable.goods restores accepts).1
  serialised_good := (recoverable.goods restores accepts).2.1
  called := (recoverable.goods restores accepts).2.2

/-- A run with crashes, in which no two flushes write at a time. -/
theorem recoverable_run (restores : design.Restores reopen agrees good accepted)
    {pool : Pool Map Call Byte} {events : List (Event Call)}
    (recoverable : design.Recoverable agrees good accepted pool)
    (along : Execution.Along (design.happen reopen)
      (fun pool event => FlushesApart pool event ∧ event.Accepted accepted) pool events) :
    design.Recoverable agrees good accepted
      (Execution.run (design.happen reopen) pool events) := by
  refine Execution.invariant (fun pool event recoverable both => ?_) recoverable along
  cases event with
  | act action => exact recoverable.act restores both.1 both.2
  | crash => exact recoverable.crash restores

/-! ## A flush which does not fail -/

/-- A flush begins and takes its steps, none of which fails. -/
def flushThrough (index : Nat) : List (Action Call) :=
  .flush :: List.replicate 6 (.advance index .succeeds)

/-- What a flush which does not fail leaves. -/
theorem run_flushThrough (design : WriteBehind Map Call Byte) (pool : Pool Map Call Byte) :
    Execution.run design.step pool (flushThrough pool.phases.length) =
      ⟨if pool.shared.dirty then
          { map := pool.shared.map
            dirty := false
            file := some ⟨pool.shared.serialised.length, design.serialise pool.shared.map⟩
            serialised := pool.shared.serialised ++ [pool.shared.map] }
        else pool.shared, pool.phases ++ [.done]⟩ := by
  obtain ⟨⟨map, dirty, file, serialised⟩, phases⟩ := pool
  cases dirty with
  | false => simp [flushThrough, List.replicate, step, advance]
  | true => simp [flushThrough, List.replicate, step, advance]

/-- Between operations the flag is up unless the file agrees with the map, and the next flush makes
it agree. -/
theorem Recoverable.of_idle (restores : design.Restores reopen agrees good accepted)
    {pool : Pool Map Call Byte} (recoverable : design.Recoverable agrees good accepted pool)
    (idle : pool.Idle) :
    (¬agrees pool.shared.content pool.shared.map → pool.shared.dirty = true) ∧
      let flushed := Execution.run design.step pool (flushThrough pool.phases.length)
      flushed.Idle ∧ flushed.shared.map = pool.shared.map ∧
        agrees flushed.shared.content flushed.shared.map := by
  refine ⟨fun differs => ?_, ?_⟩
  · by_contra down
    exact differs (recoverable.settled.agrees_of_idle idle (Bool.not_eq_true _ ▸ down))
  · rw [run_flushThrough]
    refine ⟨fun phase member => ?_, ?_⟩
    · obtain before | rfl := by simpa using member
      · exact idle phase before
      · rfl
    · cases up : pool.shared.dirty with
      | false => exact ⟨rfl, recoverable.settled.agrees_of_idle idle up⟩
      | true => exact ⟨rfl, restores.written pool.shared.map⟩

end WriteBehind
