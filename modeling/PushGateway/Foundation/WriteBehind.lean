import Mathlib.Data.List.Basic
import PushGateway.Foundation.Execution

/-!
# A map written behind to a file

Mutations change a map in memory and set a dirty flag; a flush takes the flag, serialises the map
and replaces the file through a temporary one.  Mutations and flushes run side by side in atomic
steps, any file operation may fail, and the process may crash.  The file agrees with the map
whenever nothing is in progress and the flag is down, provided that no snapshot replaces a later
one.
-/

/-- How a map is changed and how it is written out. -/
structure WriteBehind (Map Call Byte : Type) where
  /-- What a call makes of the map; a call which changes nothing does not set the flag. -/
  change : Call → Map → Option Map
  serialise : Map → List Byte

namespace WriteBehind

variable {Map Call Byte : Type}

/-! ## The steps -/

/-- What was serialised, and how many serialisations came before it. -/
structure Snapshot (Byte : Type) where
  turn : Nat
  bytes : List Byte
  deriving DecidableEq, Repr

/-- The file operations of a write, in their order. -/
inductive FileStep where
  | create
  | write
  | sync
  | rename
  deriving DecidableEq, Repr

/-- How far a mutation or a flush has come. -/
inductive Phase (Call Byte : Type) where
  | calling (call : Call)
  /-- The map is changed, the flag not yet set. -/
  | changed
  | flushing
  /-- The flag is taken down, the map not yet read. -/
  | claimed
  /-- The file operation which comes next, and what the temporary file holds. -/
  | storing (next : FileStep) (snapshot : Snapshot Byte) (temp : List Byte)
  /-- A file operation has failed, the flag is not yet set again. -/
  | failed
  | done
  deriving DecidableEq, Repr

/-- The map, the flag and the file, with the maps serialised so far. -/
structure Shared (Map Byte : Type) where
  map : Map
  dirty : Bool
  file : Option (Snapshot Byte)
  serialised : List Map

/-- What becomes of a step which may fail; a write may also store some bytes and go on. -/
inductive Turn where
  | succeeds
  | stores (count : Nat)
  | fails
  deriving DecidableEq, Repr

/-- The next atomic step of a mutation or a flush. -/
def advance (design : WriteBehind Map Call Byte) (turn : Turn) (shared : Shared Map Byte) :
    Phase Call Byte → Shared Map Byte × Phase Call Byte
  | .calling call =>
      match design.change call shared.map with
      | none => (shared, .done)
      | some map => ({ shared with map := map }, .changed)
  | .changed => ({ shared with dirty := true }, .done)
  | .flushing =>
      if shared.dirty then ({ shared with dirty := false }, .claimed) else (shared, .done)
  | .claimed =>
      ({ shared with serialised := shared.serialised ++ [shared.map] },
        .storing .create ⟨shared.serialised.length, design.serialise shared.map⟩ [])
  | .storing next snapshot temp =>
      match turn, next with
      | .fails, _ => (shared, .failed)
      | .stores count, .write =>
          (shared, .storing .write snapshot (temp ++ (snapshot.bytes.drop temp.length).take count))
      | _, .create => (shared, .storing .write snapshot [])
      | _, .write => (shared, .storing .sync snapshot (temp ++ snapshot.bytes.drop temp.length))
      | _, .sync => (shared, .storing .rename snapshot temp)
      | _, .rename => ({ shared with file := some ⟨snapshot.turn, temp⟩ }, .done)
  | .failed => ({ shared with dirty := true }, .done)
  | .done => (shared, .done)

/-- The map, flag and file with what is in progress. -/
structure Pool (Map Call Byte : Type) where
  shared : Shared Map Byte
  phases : List (Phase Call Byte)

/-- A mutation or a flush begins, or one in progress takes its next step. -/
inductive Action (Call : Type) where
  | mutate (call : Call)
  | flush
  | advance (index : Nat) (turn : Turn)
  deriving DecidableEq, Repr

/-- Perform an action. -/
def step (design : WriteBehind Map Call Byte) (pool : Pool Map Call Byte) :
    Action Call → Pool Map Call Byte
  | .mutate call => { pool with phases := pool.phases ++ [.calling call] }
  | .flush => { pool with phases := pool.phases ++ [.flushing] }
  | .advance index turn =>
      match pool.phases[index]? with
      | none => pool
      | some phase =>
          let (shared, phase) := design.advance turn pool.shared phase
          ⟨shared, pool.phases.set index phase⟩

/-- Not yet ended. -/
def Phase.active : Phase Call Byte → Bool
  | .done => false
  | _ => true

/-- Nothing is in progress. -/
def Pool.Idle (pool : Pool Map Call Byte) : Prop := ∀ phase ∈ pool.phases, phase.active = false

instance (pool : Pool Map Call Byte) : Decidable pool.Idle :=
  inferInstanceAs (Decidable (∀ _ ∈ _, _))

/-- A saved map: the file holds it and nothing is in progress. -/
def saved (design : WriteBehind Map Call Byte) (map : Map) (dirty : Bool) :
    Pool Map Call Byte where
  shared := ⟨map, dirty, some ⟨0, design.serialise map⟩, [map]⟩
  phases := []

/-- The snapshot which a flush is about to rename into place. -/
def Phase.publishing : Phase Call Byte → Option (Snapshot Byte)
  | .storing .rename snapshot _ => some snapshot
  | _ => none

/-- No snapshot is renamed over one which was serialised later. -/
def InOrder (pool : Pool Map Call Byte) : Action Call → Prop
  | .advance index turn =>
      ∀ snapshot ∈ pool.phases[index]?.bind Phase.publishing, ∀ old ∈ pool.shared.file,
        turn = .fails ∨ old.turn ≤ snapshot.turn
  | .mutate _ | .flush => True

instance (pool : Pool Map Call Byte) : DecidablePred (InOrder pool : Action Call → Prop)
  | .advance _ _ => inferInstanceAs (Decidable (∀ _ ∈ _, ∀ _ ∈ _, _))
  | .mutate _ | .flush => isTrue trivial

/-- A flush between taking the flag down and ending its write. -/
def Phase.writing : Phase Call Byte → Bool
  | .claimed | .storing _ _ _ => true
  | _ => false

/-- No flush takes the flag down while another has taken it and not yet ended its write. -/
def Apart (pool : Pool Map Call Byte) : Action Call → Prop
  | .advance index _ =>
      pool.phases[index]? = some .flushing → pool.shared.dirty = true →
        pool.phases.countP Phase.writing = 0
  | .mutate _ | .flush => True

/-- A flush has not yet looked at the flag. -/
def Phase.waiting : Phase Call Byte → Bool
  | .flushing => true
  | _ => false

theorem waiting_iff (phase : Option (Phase Call Byte)) :
    phase.any Phase.waiting = true ↔ phase = some .flushing := by
  cases phase with
  | none => simp
  | some phase => cases phase <;> simp [Phase.waiting]

instance (phase : Option (Phase Call Byte)) : Decidable (phase = some .flushing) :=
  decidable_of_iff _ (waiting_iff phase)

instance (pool : Pool Map Call Byte) : DecidablePred (Apart pool : Action Call → Prop)
  | .advance _ _ => inferInstanceAs (Decidable (_ → _ → _ = _))
  | .mutate _ | .flush => isTrue trivial

/-! ## What a step can be -/

/-- A step which is still to set the flag, or to read the map. -/
def Phase.Pending (phase : Phase Call Byte) : Prop :=
  phase = .changed ∨ phase = .claimed ∨ phase = .failed

/-- The snapshot a flush is writing. -/
def Phase.held : Phase Call Byte → Option (Snapshot Byte)
  | .storing _ snapshot _ => some snapshot
  | _ => none

/-- The temporary file holds the beginning of the snapshot, and all of it once it is written. -/
def Phase.Faithful : Phase Call Byte → Prop
  | .storing next snapshot temp =>
      temp <+: snapshot.bytes ∧ (next = .sync ∨ next = .rename → temp = snapshot.bytes)
  | _ => True

/-- The steps, by what they do to the map, the flag and the file. -/
inductive Advanced (design : WriteBehind Map Call Byte) (shared : Shared Map Byte) :
    Phase Call Byte → Shared Map Byte → Phase Call Byte → Prop
  | refused {call} (unchanged : design.change call shared.map = none) :
      Advanced design shared (.calling call) shared .done
  | changed {call map} (changed : design.change call shared.map = some map) :
      Advanced design shared (.calling call) { shared with map := map } .changed
  | marked {phase} (pending : phase = .changed ∨ phase = .failed) :
      Advanced design shared phase { shared with dirty := true } .done
  | clean (down : shared.dirty = false) : Advanced design shared .flushing shared .done
  | claimed (up : shared.dirty = true) :
      Advanced design shared .flushing { shared with dirty := false } .claimed
  | serialised :
      Advanced design shared .claimed
        { shared with serialised := shared.serialised ++ [shared.map] }
        (.storing .create ⟨shared.serialised.length, design.serialise shared.map⟩ [])
  | stored {next next' snapshot temp temp'}
      (faithful : (Phase.storing next snapshot temp : Phase Call Byte).Faithful →
        (Phase.storing next' snapshot temp' : Phase Call Byte).Faithful) :
      Advanced design shared (.storing next snapshot temp) shared (.storing next' snapshot temp')
  | failed {next snapshot temp} :
      Advanced design shared (.storing next snapshot temp) shared .failed
  | renamed {snapshot temp} :
      Advanced design shared (.storing .rename snapshot temp)
        { shared with file := some ⟨snapshot.turn, temp⟩ } .done
  | idle : Advanced design shared .done shared .done

theorem append_drop_of_prefix {temp bytes : List Byte} (begun : temp <+: bytes) :
    temp ++ bytes.drop temp.length = bytes := by
  obtain ⟨rest, rfl⟩ := begun
  rw [List.drop_left]

theorem advance_advanced (design : WriteBehind Map Call Byte) (turn : Turn)
    (shared : Shared Map Byte) (phase : Phase Call Byte) :
    design.Advanced shared phase (design.advance turn shared phase).1
      (design.advance turn shared phase).2 := by
  cases phase with
  | calling call =>
      rw [advance]
      cases change : design.change call shared.map with
      | none => exact .refused change
      | some map => exact .changed change
  | changed => exact .marked (.inl rfl)
  | flushing =>
      cases up : shared.dirty with
      | false =>
          simp only [advance, up]
          exact .clean up
      | true =>
          simp only [advance, up]
          exact .claimed up
  | claimed => exact .serialised
  | storing next snapshot temp =>
      have whole : temp <+: snapshot.bytes →
          temp ++ snapshot.bytes.drop temp.length = snapshot.bytes := append_drop_of_prefix
      cases turn with
      | fails => exact .failed
      | stores count =>
          cases next with
          | create => exact .stored fun _ => ⟨List.nil_prefix, by simp⟩
          | write =>
              refine .stored fun faithful => ⟨?_, by simp⟩
              have portion : (snapshot.bytes.drop temp.length).take count <+:
                  snapshot.bytes.drop temp.length := List.take_prefix _ _
              rw [← whole faithful.1]
              simpa using portion
          | sync => exact .stored fun faithful => ⟨faithful.1, fun _ => faithful.2 (.inl rfl)⟩
          | rename => exact .renamed
      | succeeds =>
          cases next with
          | create => exact .stored fun _ => ⟨List.nil_prefix, by simp⟩
          | write =>
              refine .stored fun faithful => ?_
              rw [whole faithful.1]
              exact ⟨List.prefix_rfl, fun _ => rfl⟩
          | sync => exact .stored fun faithful => ⟨faithful.1, fun _ => faithful.2 (.inl rfl)⟩
          | rename => exact .renamed
  | failed => exact .marked (.inr rfl)
  | done => exact .idle

/-! ## Replacing one phase -/

theorem mem_set_of_mem {α : Type} {list : List α} {index : Nat} {previous next other : α}
    (found : list[index]? = some previous) (member : other ∈ list) (different : other ≠ previous) :
    other ∈ list.set index next := by
  obtain ⟨place, at_place⟩ := List.mem_iff_getElem?.mp member
  have elsewhere : index ≠ place := by
    rintro rfl
    exact different (Option.some.inj (at_place.symm.trans found))
  exact List.mem_iff_getElem?.mpr ⟨place, by rwa [List.getElem?_set_ne elsewhere]⟩

theorem mem_set_self {α : Type} {list : List α} {index : Nat} {previous : α} (next : α)
    (found : list[index]? = some previous) : next ∈ list.set index next := by
  obtain ⟨below, -⟩ := List.getElem?_eq_some_iff.mp found
  exact List.mem_set below next

/-! ## What every run keeps -/

/-- A snapshot in the file, or in the hands of a flush. -/
def Pool.Present (pool : Pool Map Call Byte) (snapshot : Snapshot Byte) : Prop :=
  pool.shared.file = some snapshot ∨ ∃ phase ∈ pool.phases, phase.held = some snapshot

/-- Every snapshot is of the map which was serialised in its turn, and no temporary file holds
anything else. -/
structure Kept (design : WriteBehind Map Call Byte) (pool : Pool Map Call Byte) : Prop where
  taken : ∀ snapshot, pool.Present snapshot →
    (pool.shared.serialised[snapshot.turn]?).map design.serialise = some snapshot.bytes
  faithful : ∀ phase ∈ pool.phases, phase.Faithful

theorem Kept.turn_lt {design : WriteBehind Map Call Byte} {pool : Pool Map Call Byte}
    (kept : design.Kept pool) {snapshot : Snapshot Byte} (present : pool.Present snapshot) :
    snapshot.turn < pool.shared.serialised.length := by
  by_contra beyond
  have taken := kept.taken snapshot present
  rw [List.getElem?_eq_none (Nat.not_lt.mp beyond)] at taken
  cases taken

theorem Kept.bytes_eq {design : WriteBehind Map Call Byte} {pool : Pool Map Call Byte}
    (kept : design.Kept pool) {left right : Snapshot Byte} (left_present : pool.Present left)
    (right_present : pool.Present right) (same : left.turn = right.turn) :
    left.bytes = right.bytes := by
  have taken := kept.taken left left_present
  rw [same, kept.taken right right_present] at taken
  exact (Option.some.inj taken).symm

/-- What a step leaves of the snapshots: a new one is of the map just serialised, in its turn. -/
theorem Advanced.present {design : WriteBehind Map Call Byte} {pool : Pool Map Call Byte}
    {index : Nat} {phase next : Phase Call Byte} {shared : Shared Map Byte}
    (kept : design.Kept pool) (found : pool.phases[index]? = some phase)
    (advanced : design.Advanced pool.shared phase shared next) {snapshot : Snapshot Byte}
    (present : (⟨shared, pool.phases.set index next⟩ : Pool Map Call Byte).Present snapshot) :
    pool.Present snapshot ∨ phase = .claimed ∧
      snapshot = ⟨pool.shared.serialised.length, design.serialise pool.shared.map⟩ := by
  have member := List.mem_of_getElem? found
  have among : ∀ other ∈ pool.phases.set index next, other.held = some snapshot →
      pool.Present snapshot ∨ next.held = some snapshot := by
    intro other inside held
    obtain old | rfl := List.mem_or_eq_of_mem_set inside
    · exact .inl (.inr ⟨other, old, held⟩)
    · exact .inr held
  obtain in_file | ⟨other, inside, held⟩ := present
  · cases advanced with
    | renamed =>
        rename_i own temp
        have whole : temp = own.bytes := (kept.faithful _ member).2 (.inr rfl)
        cases in_file
        exact .inl (.inr ⟨_, member, by rw [whole]; rfl⟩)
    | _ => exact .inl (.inl in_file)
  · obtain old | new := among other inside held
    · exact .inl old
    · cases advanced with
      | serialised => exact .inr ⟨rfl, (Option.some.inj new).symm⟩
      | stored => exact .inl (.inr ⟨_, member, new⟩)
      | _ => cases new

theorem Kept.advance {design : WriteBehind Map Call Byte} {pool : Pool Map Call Byte}
    (kept : design.Kept pool) {index : Nat} {phase next : Phase Call Byte}
    {shared : Shared Map Byte} (found : pool.phases[index]? = some phase)
    (advanced : design.Advanced pool.shared phase shared next) :
    design.Kept ⟨shared, pool.phases.set index next⟩ where
  taken snapshot present := by
    obtain old | ⟨rfl, rfl⟩ := advanced.present kept found present
    · have taken := kept.taken snapshot old
      cases advanced with
      | serialised =>
          rw [List.getElem?_append_left (kept.turn_lt old)]
          exact taken
      | _ => exact taken
    · cases advanced with
      | serialised => simp
      | marked pending => simp at pending
  faithful other inside := by
    obtain old | rfl := List.mem_or_eq_of_mem_set inside
    · exact kept.faithful other old
    · cases advanced with
      | serialised => exact ⟨List.nil_prefix, by simp⟩
      | stored faithful => exact faithful (kept.faithful _ (List.mem_of_getElem? found))
      | _ => trivial

theorem Kept.begin {design : WriteBehind Map Call Byte} {pool : Pool Map Call Byte}
    (kept : design.Kept pool) {phase : Phase Call Byte} (holds : phase.held = none)
    (faithful : phase.Faithful) :
    design.Kept { pool with phases := pool.phases ++ [phase] } where
  taken snapshot present := by
    refine kept.taken snapshot (present.imp_right ?_)
    rintro ⟨other, inside, held⟩
    obtain old | rfl := by simpa using inside
    · exact ⟨other, old, held⟩
    · rw [holds] at held
      cases held
  faithful other inside := by
    obtain old | rfl := by simpa using inside
    · exact kept.faithful other old
    · exact faithful

theorem kept_step {design : WriteBehind Map Call Byte} {pool : Pool Map Call Byte}
    (kept : design.Kept pool) (action : Action Call) : design.Kept (design.step pool action) := by
  cases action with
  | mutate call => exact kept.begin rfl trivial
  | flush => exact kept.begin rfl trivial
  | advance index turn =>
      rw [step]
      cases found : pool.phases[index]? with
      | none => exact kept
      | some phase => exact kept.advance found (design.advance_advanced turn pool.shared phase)

/-! ## No change is forgotten -/

/-- What the file holds. -/
def Shared.content (shared : Shared Map Byte) : Option (List Byte) :=
  shared.file.map Snapshot.bytes

/-- Whatever the file lacks of the map is marked, about to be marked, or being written.  The
relation says when a file agrees with a map. -/
inductive Settled (design : WriteBehind Map Call Byte) (agrees : Option (List Byte) → Map → Prop)
    (pool : Pool Map Call Byte) : Prop
  | dirty (up : pool.shared.dirty = true)
  | pending (phase : Phase Call Byte) (member : phase ∈ pool.phases) (pending : phase.Pending)
  | stored (agree : agrees pool.shared.content pool.shared.map)
      (newest : ∀ phase ∈ pool.phases, ∀ held, phase.held = some held →
        ∃ stored, pool.shared.file = some stored ∧ held.turn ≤ stored.turn)
  | storing (phase : Phase Call Byte) (member : phase ∈ pool.phases) (held : Snapshot Byte)
      (holds : phase.held = some held) (current : held.bytes = design.serialise pool.shared.map)
      (newest : ∀ other ∈ pool.phases, ∀ snapshot, other.held = some snapshot →
        snapshot.turn ≤ held.turn)

variable {design : WriteBehind Map Call Byte} {agrees : Option (List Byte) → Map → Prop}

/-- A step which sets or reads nothing and keeps what it holds. -/
theorem Settled.frame {pool : Pool Map Call Byte} (settled : design.Settled agrees pool)
    {index : Nat} {phase next : Phase Call Byte} (found : pool.phases[index]? = some phase)
    (idle : ¬phase.Pending) (same : next.held = phase.held) :
    design.Settled agrees { pool with phases := pool.phases.set index next } := by
  have member := List.mem_of_getElem? found
  have among : ∀ other ∈ pool.phases.set index next, ∀ snapshot, other.held = some snapshot →
      ∃ previous ∈ pool.phases, previous.held = some snapshot := by
    intro other inside snapshot held
    obtain old | rfl := List.mem_or_eq_of_mem_set inside
    · exact ⟨other, old, held⟩
    · exact ⟨phase, member, same ▸ held⟩
  cases settled with
  | dirty up => exact .dirty up
  | pending other inside pending =>
      refine .pending other (mem_set_of_mem found inside ?_) pending
      rintro rfl
      exact idle pending
  | stored agree newest =>
      refine .stored agree fun other inside held holds => ?_
      obtain ⟨previous, old, held_before⟩ := among other inside held holds
      exact newest previous old held held_before
  | storing other inside held holds current newest =>
      have newest' : ∀ third ∈ pool.phases.set index next, ∀ snapshot,
          third.held = some snapshot → snapshot.turn ≤ held.turn := by
        intro third third_inside snapshot third_holds
        obtain ⟨previous, old, held_before⟩ := among third third_inside snapshot third_holds
        exact newest previous old snapshot held_before
      by_cases own : other = phase
      · rw [own, ← same] at holds
        exact .storing next (mem_set_self next found) held holds current newest'
      · exact .storing other (mem_set_of_mem found inside own) held holds current newest'

/-- A snapshot no older than the file's is renamed into place. -/
theorem Settled.renamed
    (written : ∀ map, agrees (some (design.serialise map)) map) {pool : Pool Map Call Byte}
    (kept : design.Kept pool) (settled : design.Settled agrees pool) {index : Nat}
    {snapshot : Snapshot Byte} {temp : List Byte}
    (found : pool.phases[index]? = some (.storing .rename snapshot temp))
    (in_order : ∀ old, pool.shared.file = some old → old.turn ≤ snapshot.turn) :
    design.Settled agrees
      ⟨{ pool.shared with file := some ⟨snapshot.turn, temp⟩ }, pool.phases.set index .done⟩ := by
  have member := List.mem_of_getElem? found
  have whole : temp = snapshot.bytes := (kept.faithful _ member).2 (.inr rfl)
  have among : ∀ other ∈ pool.phases.set index .done, ∀ held, other.held = some held →
      other ∈ pool.phases := by
    intro other inside held holds
    obtain old | rfl := List.mem_or_eq_of_mem_set inside
    · exact old
    · cases holds
  cases settled with
  | dirty up => exact .dirty up
  | pending other inside pending =>
      refine .pending other (mem_set_of_mem found inside ?_) pending
      rintro rfl
      obtain impossible | impossible | impossible := pending <;> cases impossible
  | stored agree newest =>
      obtain ⟨stored, in_file, newer⟩ := newest _ member snapshot rfl
      have same : stored.turn = snapshot.turn := Nat.le_antisymm (in_order stored in_file) newer
      have bytes := kept.bytes_eq (.inl in_file) (.inr ⟨_, member, rfl⟩) same
      rw [Shared.content, in_file, Option.map_some, bytes, ← whole] at agree
      refine .stored agree fun other inside held holds => ⟨_, rfl, ?_⟩
      obtain ⟨stored', in_file', le⟩ := newest other (among other inside held holds) held holds
      rw [in_file] at in_file'
      rw [← Option.some.inj in_file', same] at le
      exact le
  | storing other inside held holds current newest =>
      have newest' : ∀ third ∈ pool.phases.set index .done, ∀ snapshot,
          third.held = some snapshot → snapshot.turn ≤ held.turn :=
        fun third third_inside snapshot third_holds =>
          newest third (among third third_inside snapshot third_holds) snapshot third_holds
      by_cases own : other = .storing .rename snapshot temp
      · rw [own] at holds
        cases holds
        refine .stored ?_ fun third third_inside held holds =>
          ⟨_, rfl, newest' third third_inside held holds⟩
        rw [Shared.content, Option.map_some, whole, current]
        exact written pool.shared.map
      · exact .storing other (mem_set_of_mem found inside own) held holds current newest'

theorem Settled.advance
    (written : ∀ map, agrees (some (design.serialise map)) map) {pool : Pool Map Call Byte}
    (kept : design.Kept pool) (settled : design.Settled agrees pool) {index : Nat}
    {phase next : Phase Call Byte} {shared : Shared Map Byte}
    (found : pool.phases[index]? = some phase)
    (advanced : design.Advanced pool.shared phase shared next)
    (in_order : ∀ snapshot temp, phase = .storing .rename snapshot temp → next = .done →
      ∀ old, pool.shared.file = some old → old.turn ≤ snapshot.turn) :
    design.Settled agrees ⟨shared, pool.phases.set index next⟩ := by
  cases advanced with
  | refused => exact settled.frame found (by simp [Phase.Pending]) rfl
  | changed => exact .pending .changed (mem_set_self _ found) (.inl rfl)
  | marked => exact .dirty rfl
  | clean => exact settled.frame found (by simp [Phase.Pending]) rfl
  | claimed => exact .pending .claimed (mem_set_self _ found) (.inr (.inl rfl))
  | serialised =>
      refine .storing _ (mem_set_self _ found) _ rfl rfl fun other inside snapshot holds => ?_
      obtain old | rfl := List.mem_or_eq_of_mem_set inside
      · exact Nat.le_of_lt (kept.turn_lt (.inr ⟨other, old, holds⟩))
      · cases holds
        exact Nat.le_refl _
  | stored => exact settled.frame found (by simp [Phase.Pending]) rfl
  | failed => exact .pending .failed (mem_set_self _ found) (.inr (.inr rfl))
  | renamed => exact settled.renamed written kept found (in_order _ _ rfl rfl)
  | idle => exact settled.frame found (by simp [Phase.Pending]) rfl

theorem Settled.begin {pool : Pool Map Call Byte} (settled : design.Settled agrees pool)
    {phase : Phase Call Byte} (holds_none : phase.held = none) :
    design.Settled agrees { pool with phases := pool.phases ++ [phase] } := by
  have among : ∀ other ∈ pool.phases ++ [phase], ∀ held, other.held = some held →
      other ∈ pool.phases := by
    intro other inside held holds
    obtain old | rfl := by simpa using inside
    · exact old
    · rw [holds_none] at holds
      cases holds
  cases settled with
  | dirty up => exact .dirty up
  | pending other inside pending => exact .pending other (List.mem_append_left _ inside) pending
  | stored agree newest =>
      exact .stored agree fun other inside held holds =>
        newest other (among other inside held holds) held holds
  | storing other inside held holds current newest =>
      exact .storing other (List.mem_append_left _ inside) held holds current
        fun third third_inside snapshot third_holds =>
          newest third (among third third_inside snapshot third_holds) snapshot third_holds

/-- One step which keeps the snapshots in order keeps every change in sight. -/
theorem settled_step
    (written : ∀ map, agrees (some (design.serialise map)) map) {pool : Pool Map Call Byte}
    {action : Action Call} (kept : design.Kept pool) (settled : design.Settled agrees pool)
    (in_order : InOrder pool action) : design.Settled agrees (design.step pool action) := by
  cases action with
  | mutate call => exact settled.begin rfl
  | flush => exact settled.begin rfl
  | advance index turn =>
      rw [step]
      cases found : pool.phases[index]? with
      | none => exact settled
      | some phase =>
          refine settled.advance written kept found
            (design.advance_advanced turn pool.shared phase)
            fun snapshot temp same ended old in_file => ?_
          have renames : pool.phases[index]?.bind Phase.publishing = some snapshot := by
            rw [found, same]
            rfl
          obtain rfl | ordered := in_order snapshot renames old in_file
          · rw [same] at ended
            cases ended
          · exact ordered

/-- When nothing is in progress and the flag is down, the file agrees with the map. -/
theorem Settled.agrees_of_idle {pool : Pool Map Call Byte} (settled : design.Settled agrees pool)
    (idle : pool.Idle) (down : pool.shared.dirty = false) :
    agrees pool.shared.content pool.shared.map := by
  cases settled with
  | dirty up => simp [down] at up
  | pending phase member pending =>
      have ended := idle phase member
      obtain rfl | rfl | rfl := pending <;> cases ended
  | stored agree newest => exact agree
  | storing phase member held holds current newest =>
      have ended := idle phase member
      cases phase with
      | done => cases holds
      | _ => cases ended

theorem saved_kept (design : WriteBehind Map Call Byte) (map : Map) (dirty : Bool) :
    design.Kept (design.saved map dirty) where
  taken snapshot present := by
    obtain in_file | ⟨phase, inside, _⟩ := present
    · cases in_file
      rfl
    · cases inside
  faithful phase inside := by cases inside

/-- A run which keeps the snapshots in order. -/
theorem settled_run
    (written : ∀ map, agrees (some (design.serialise map)) map) {pool : Pool Map Call Byte}
    {actions : List (Action Call)} (kept : design.Kept pool)
    (settled : design.Settled agrees pool)
    (in_order : Execution.Along design.step InOrder pool actions) :
    design.Settled agrees (Execution.run design.step pool actions) := by
  have preserved : ∀ pool action, design.Kept pool ∧ design.Settled agrees pool →
      InOrder pool action →
      design.Kept (design.step pool action) ∧ design.Settled agrees (design.step pool action) :=
    fun _ action both in_order =>
      ⟨kept_step both.1 action, settled_step written both.1 both.2 in_order⟩
  exact (Execution.invariant preserved ⟨kept, settled⟩ in_order).2

/-- When nothing is in progress and the flag is down, the file holds the map. -/
def Durable (design : WriteBehind Map Call Byte) (pool : Pool Map Call Byte) : Prop :=
  pool.Idle → pool.shared.dirty = false →
    pool.shared.content = some (design.serialise pool.shared.map)

/-- From a saved map, no change is lost while the snapshots are renamed in order. -/
theorem durable_run (design : WriteBehind Map Call Byte) (map : Map) (dirty : Bool)
    {actions : List (Action Call)}
    (in_order : Execution.Along design.step InOrder (design.saved map dirty) actions) :
    design.Durable (Execution.run design.step (design.saved map dirty) actions) := by
  intro idle down
  have settled : design.Settled (fun content map => content = some (design.serialise map))
      (design.saved map dirty) :=
    .stored rfl fun phase inside => by cases inside
  exact (settled_run (fun _ => rfl) (saved_kept design map dirty) settled
    in_order).agrees_of_idle idle down

/-! ## Flushes which do not overlap -/

/-- One flush writes at a time, and what it writes is no older than the file. -/
structure Single (pool : Pool Map Call Byte) : Prop where
  one : pool.phases.countP Phase.writing ≤ 1
  newer : ∀ phase ∈ pool.phases, ∀ held, phase.held = some held →
    ∀ old, pool.shared.file = some old → old.turn ≤ held.turn

theorem writing_of_held {phase : Phase Call Byte} {snapshot : Snapshot Byte}
    (holds : phase.held = some snapshot) : phase.writing = true := by
  cases phase with
  | storing => rfl
  | _ => cases holds

theorem Advanced.writing {shared shared' : Shared Map Byte} {phase next : Phase Call Byte}
    (advanced : design.Advanced shared phase shared' next) (writing : next.writing = true) :
    phase.writing = true ∨ phase = .flushing ∧ shared.dirty = true := by
  cases advanced with
  | claimed up => exact .inr ⟨rfl, up⟩
  | serialised => exact .inl rfl
  | stored => exact .inl rfl
  | _ => cases writing

theorem Single.advance {pool : Pool Map Call Byte} (kept : design.Kept pool)
    (single : Single pool) {index : Nat} {phase next : Phase Call Byte}
    {shared : Shared Map Byte} (found : pool.phases[index]? = some phase)
    (advanced : design.Advanced pool.shared phase shared next)
    (apart : phase = .flushing → pool.shared.dirty = true →
      pool.phases.countP Phase.writing = 0) :
    Single ⟨shared, pool.phases.set index next⟩ := by
  have member := List.mem_of_getElem? found
  have counted := Execution.countP_set_add found next Phase.writing
  have one : (pool.phases.set index next).countP Phase.writing ≤ 1 := by
    have before := single.one
    by_cases writing : next.writing = true
    · obtain already | ⟨begins, up⟩ := advanced.writing writing
      · simp only [writing, already, if_true] at counted
        omega
      · simp only [apart begins up, writing, if_true] at counted
        omega
    · simp only [writing, Bool.false_eq_true, if_false] at counted
      omega
  refine ⟨one, fun other inside held holds old in_file => ?_⟩
  have inside' := List.mem_or_eq_of_mem_set inside
  cases advanced with
  | serialised =>
      obtain before | rfl := inside'
      · exact single.newer other before held holds old in_file
      · cases holds
        exact Nat.le_of_lt (kept.turn_lt (.inl in_file))
  | stored =>
      obtain before | rfl := inside'
      · exact single.newer other before held holds old in_file
      · exact single.newer _ member held holds old in_file
  | renamed =>
      -- the flush which renamed was the one which wrote
      have alone : (pool.phases.set index .done).countP Phase.writing = 0 := by
        have before := single.one
        simp only [Phase.writing, if_true, Bool.false_eq_true, if_false] at counted
        omega
      exact absurd (writing_of_held holds) (List.countP_eq_zero.mp alone other inside)
  | _ =>
      obtain before | rfl := inside'
      · exact single.newer other before held holds old in_file
      · cases holds

theorem Single.begin {pool : Pool Map Call Byte} (single : Single pool) {phase : Phase Call Byte}
    (idle : phase.writing = false) : Single { pool with phases := pool.phases ++ [phase] } where
  one := by simpa [idle] using single.one
  newer other inside held holds old in_file := by
    obtain before | rfl := by simpa using inside
    · exact single.newer other before held holds old in_file
    · simp [writing_of_held holds] at idle

theorem single_step {pool : Pool Map Call Byte} {action : Action Call} (kept : design.Kept pool)
    (single : Single pool) (apart : Apart pool action) : Single (design.step pool action) := by
  cases action with
  | mutate call => exact single.begin rfl
  | flush => exact single.begin rfl
  | advance index turn =>
      rw [step]
      cases found : pool.phases[index]? with
      | none => exact single
      | some phase =>
          refine single.advance kept found (design.advance_advanced turn pool.shared phase)
            fun begins up => apart (by rw [found, begins]) up

theorem Single.inOrder {pool : Pool Map Call Byte} (single : Single pool) (action : Action Call) :
    InOrder pool action := by
  cases action with
  | mutate call => trivial
  | flush => trivial
  | advance index turn =>
      intro snapshot renames old in_file
      obtain ⟨phase, found, publishes⟩ := Option.bind_eq_some_iff.mp renames
      cases phase with
      | storing next held temp =>
          cases next with
          | rename =>
              have newer := single.newer _ (List.mem_of_getElem? found) held rfl old in_file
              rw [← Option.some.inj publishes]
              exact .inr newer
          | _ => cases publishes
      | _ => cases publishes

/-- Flushes which do not overlap keep their snapshots in order. -/
theorem inOrder_of_apart {pool : Pool Map Call Byte} {actions : List (Action Call)}
    (kept : design.Kept pool) (single : Single pool)
    (apart : Execution.Along design.step Apart pool actions) :
    Execution.Along design.step InOrder pool actions := by
  have preserved : ∀ pool action, design.Kept pool ∧ Single pool → Apart pool action →
      design.Kept (design.step pool action) ∧ Single (design.step pool action) :=
    fun _ action both apart => ⟨kept_step both.1 action, single_step both.1 both.2 apart⟩
  exact Execution.along_mono (fun _ action both => both.1.2.inOrder action)
    (Execution.along_with_invariant preserved ⟨kept, single⟩ apart)

/-- From a saved map, no change is lost while no two flushes write at a time. -/
theorem durable_of_apart (design : WriteBehind Map Call Byte) (map : Map) (dirty : Bool)
    {actions : List (Action Call)}
    (apart : Execution.Along design.step Apart (design.saved map dirty) actions) :
    design.Durable (Execution.run design.step (design.saved map dirty) actions) := by
  have single : Single (design.saved map dirty) :=
    ⟨Nat.zero_le 1, fun phase inside => by cases inside⟩
  exact durable_run design map dirty (inOrder_of_apart (saved_kept design map dirty) single apart)

end WriteBehind
