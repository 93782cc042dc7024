import PushGateway.Foundation.FileSystem

/-!
# Secret files

The gateway writes its keys once, and its snapshots over and over.  A write is some calls of the
system, between which other writes go on, another user of the machine gets at the files, or the
gateway crashes.  That user sees nothing of what is written, and whoever opens a snapshot finds all
of what was last written there.
-/

namespace PushGateway.Secretfile

/-- Owner-only file mode. -/
def ownerOnly : Nat := 0o600

/-- The crate which makes temporary files: the mode it makes them with, and the names it draws. -/
structure TemporaryFiles where
  mode : Nat
  names : String → Prop
  tight : ¬IsLoose mode

/-- The gateway as a user of the machine, and the bytes of its secrets. -/
structure Writer (User Byte Secret : Type) where
  user : User
  temporary : TemporaryFiles
  holding : Secret → List Byte

/-- How far a write has got; a file is open from its creation on. -/
inductive Stage where
  | opening
  | writing (inode : Nat) (name : String) (written : Nat)
  | syncing (inode : Nat) (name : String)
  | persisting (inode : Nat) (name : String)
  | done
  | failed
  deriving DecidableEq, Repr

/-- A file being written, under its own name or, until it is complete, under a temporary one. -/
structure Job (Secret : Type) where
  path : String
  atomic : Bool
  secret : Secret
  stage : Stage

/-- How the next call of a write turns out.  A call which succeeds draws a temporary name or stores
so many bytes, as it is one for that. -/
inductive Turn where
  | fails
  | succeeds (drawn : String) (stored : Nat)

inductive Action (Byte Secret : Type) where
  | writeOwnerOnlyNew (path : String) (secret : Secret)
  | writeOwnerOnlyAtomic (path : String) (secret : Secret)
  | advance (job : Nat) (turn : Turn)
  /-- `tighten_to_owner_only` begins, and looks at the mode of the file. -/
  | tightenToOwnerOnly (path : String)
  /-- It goes on where it has found the mode to be loose. -/
  | setPermissions (index : Nat) (fails : Bool)
  /-- The gateway stops; its writes stay where they are. -/
  | crash
  | tamper (tampering : FileSystem.Tampering Byte)

/-- The machine: its files, the writes the gateway is at, and the paths which it has found open to
others and is about to close. -/
structure Machine (User Byte Secret : Type) where
  files : FileSystem User Byte
  jobs : List (Job Secret)
  loose : List String

/-- The gateway is at nothing. -/
def Machine.idle {User Byte Secret : Type} (files : FileSystem User Byte) :
    Machine User Byte Secret :=
  ⟨files, [], []⟩

/-- The file which is open, and its name. -/
def Stage.opened : Stage → Option (Nat × String)
  | .writing inode name _ | .syncing inode name | .persisting inode name => some (inode, name)
  | .opening | .done | .failed => none

def Job.inode {Secret : Type} (job : Job Secret) : Option Nat := job.stage.opened.map Prod.fst

namespace Writer

variable {User Byte Secret : Type}

/-- What the open file holds by now. -/
def stored (writer : Writer User Byte Secret) (job : Job Secret) : List Byte :=
  match job.stage with
  | .writing _ _ written => (writer.holding job.secret).take written
  | _ => writer.holding job.secret

/-- Give a write up: a temporary file is removed, another one stays behind. -/
def abandon (files : FileSystem User Byte) (job : Job Secret) (name : String) :
    FileSystem User Byte × Stage :=
  (if job.atomic then files.unlink name else files, .failed)

/-- Create the file, exclusively; a temporary name which is taken is drawn again. -/
def create (writer : Writer User Byte Secret) (files : FileSystem User Byte) (job : Job Secret)
    (drawn : String) : FileSystem User Byte × Stage :=
  let name := if job.atomic then drawn else job.path
  let mode := if job.atomic then writer.temporary.mode else ownerOnly
  match files.createNew writer.user mode name with
  | some (inode, after) => (after, .writing inode name 0)
  | none => (files, if job.atomic then .opening else .failed)

/-- Make the next call of a write. -/
def advance (writer : Writer User Byte Secret) (files : FileSystem User Byte) (job : Job Secret)
    (turn : Turn) : FileSystem User Byte × Stage :=
  let bytes := writer.holding job.secret
  match job.stage, turn with
  | .opening, .fails => (files, .failed)
  | .opening, .succeeds drawn _ => writer.create files job drawn
  | .writing inode name written, turn =>
      if bytes.length ≤ written then (files, .syncing inode name)
      else
        match turn with
        -- a call which stores nothing is an error as well
        | .fails | .succeeds _ 0 => abandon files job name
        | .succeeds _ stored =>
            (files.append inode ((bytes.drop written).take stored),
              .writing inode name (written + stored))
  | .syncing _ name, .fails => abandon files job name
  | .syncing inode name, .succeeds _ _ =>
      (files, if job.atomic then .persisting inode name else .done)
  | .persisting _ name, .fails => abandon files job name
  | .persisting _ name, .succeeds _ _ =>
      match files.rename name job.path with
      | some after => (after, .done)
      | none => abandon files job name
  | .done, _ => (files, .done)
  | .failed, _ => (files, .failed)

variable [DecidableEq User]

/-- The first call on a file which an older build may have left open to others. -/
def tightenToOwnerOnly (machine : Machine User Byte Secret) (path : String) :
    Machine User Byte Secret :=
  match machine.files.modeOf path with
  | none => machine
  | some mode =>
      if IsLoose mode then { machine with loose := machine.loose ++ [path] } else machine

/-- The second one, which closes it. -/
def setPermissions (writer : Writer User Byte Secret) (machine : Machine User Byte Secret)
    (index : Nat) (fails : Bool) : Machine User Byte Secret :=
  match machine.loose[index]? with
  | none => machine
  | some path =>
      { machine with
        files := if fails then machine.files else machine.files.chmod writer.user ownerOnly path
        loose := machine.loose.eraseIdx index }

def step (writer : Writer User Byte Secret) (stranger : User)
    (machine : Machine User Byte Secret) : Action Byte Secret → Machine User Byte Secret
  | .writeOwnerOnlyNew path secret =>
      { machine with jobs := machine.jobs ++ [⟨path, false, secret, .opening⟩] }
  | .writeOwnerOnlyAtomic path secret =>
      { machine with jobs := machine.jobs ++ [⟨path, true, secret, .opening⟩] }
  | .advance index turn =>
      match machine.jobs[index]? with
      | none => machine
      | some job =>
          let (files, stage) := writer.advance machine.files job turn
          ⟨files, machine.jobs.set index { job with stage := stage }, machine.loose⟩
  | .tightenToOwnerOnly path => tightenToOwnerOnly machine path
  | .setPermissions index fails => writer.setPermissions machine index fails
  | .crash => .idle machine.files
  | .tamper tampering => { machine with files := machine.files.tamper stranger tampering }

/-- Make a step, after which the stranger looks at the files. -/
def perform (writer : Writer User Byte Secret) (stranger : User)
    (machine : Machine User Byte Secret) (action : Action Byte Secret) :
    ((String → Option Entry) × List (User × Nat × Nat × Option (List Byte))) ×
      Machine User Byte Secret :=
  let after := writer.step stranger machine action
  (after.files.view stranger, after)

/-! ## A call -/

omit [DecidableEq User]

/-- What a call of a write does. -/
inductive Advanced (writer : Writer User Byte Secret) (files : FileSystem User Byte)
    (job : Job Secret) (turn : Turn) : FileSystem User Byte → Stage → Prop where
  | idles {stage : Stage} (closed : job.stage.opened = none) (idle : stage.opened = none)
      (still : stage = .done → job.stage = .done) : Advanced writer files job turn files stage
  | creates {inode mode stored : Nat} {drawn : String} {after : FileSystem User Byte}
      (opening : job.stage = .opening) (tight : ¬IsLoose mode)
      (turns : turn = .succeeds drawn stored)
      (created : files.createNew writer.user mode (if job.atomic then drawn else job.path) =
        some (inode, after)) :
      Advanced writer files job turn after
        (.writing inode (if job.atomic then drawn else job.path) 0)
  | stores {inode written : Nat} {name : String} (count : Nat)
      (writing : job.stage = .writing inode name written) :
      Advanced writer files job turn
        (files.append inode (((writer.holding job.secret).drop written).take count))
        (.writing inode name (written + count))
  | proceeds {inode : Nat} {name : String} {stage : Stage}
      (opened : job.stage.opened = some (inode, name)) (still : stage.opened = some (inode, name))
      (complete : writer.stored job = writer.holding job.secret)
      (next : stage = .syncing inode name ∨ stage = .persisting inode name ∧ job.atomic) :
      Advanced writer files job turn files stage
  | completes {inode : Nat} {name : String} (syncing : job.stage = .syncing inode name)
      (own : ¬job.atomic) : Advanced writer files job turn files .done
  | abandons {inode : Nat} {name : String} (opened : job.stage.opened = some (inode, name)) :
      Advanced writer files job turn (abandon files job name).1 .failed
  | publishes {inode : Nat} {name : String} {after : FileSystem User Byte}
      (persisting : job.stage = .persisting inode name)
      (renamed : files.rename name job.path = some after) :
      Advanced writer files job turn after .done

theorem create_cases {writer : Writer User Byte Secret} {files : FileSystem User Byte}
    {job : Job Secret} {turn : Turn} {drawn : String} {stored : Nat}
    (opening : job.stage = .opening) (turns : turn = .succeeds drawn stored) :
    Advanced writer files job turn (writer.create files job drawn).1
      (writer.create files job drawn).2 := by
  have tight : ¬IsLoose (if job.atomic then writer.temporary.mode else ownerOnly) := by
    split
    · exact writer.temporary.tight
    · decide
  have closed : job.stage.opened = none := by rw [opening]; rfl
  simp only [create]
  split
  · rename_i created
    exact .creates opening tight turns created
  · refine .idles closed ?_ ?_
    · split <;> rfl
    · split <;> simp

theorem advance_cases (writer : Writer User Byte Secret) (files : FileSystem User Byte)
    (job : Job Secret) (turn : Turn) :
    Advanced writer files job turn (writer.advance files job turn).1
      (writer.advance files job turn).2 := by
  obtain ⟨path, atomic, secret, stage⟩ := job
  cases stage with
  | opening =>
      cases turn with
      | fails => exact .idles rfl rfl nofun
      | succeeds drawn stored => exact create_cases rfl rfl
  | writing inode name written =>
      simp only [advance]
      split
      · rename_i complete
        exact .proceeds rfl rfl (List.take_of_length_le complete) (.inl rfl)
      · split
        · exact .abandons rfl
        · exact .abandons rfl
        · exact .stores _ rfl
  | syncing inode name =>
      cases turn with
      | fails => exact .abandons rfl
      | succeeds drawn stored =>
          cases atomic with
          | false => exact .completes rfl (by simp)
          | true => exact .proceeds rfl rfl rfl (.inr ⟨rfl, rfl⟩)
  | persisting inode name =>
      cases turn with
      | fails => exact .abandons rfl
      | succeeds drawn stored =>
          simp only [advance]
          split
          · rename_i renamed
            exact .publishes rfl renamed
          · exact .abandons rfl
  | done => exact .idles rfl rfl fun _ => rfl
  | failed => exact .idles rfl rfl nofun

/-! ## Open files -/

/-- The file a write has open is the gateway's own and holds what the write has stored, and no two
writes have the same one open. -/
structure Sound (writer : Writer User Byte Secret) (machine : Machine User Byte Secret) :
    Prop where
  kept : ∀ {index : Nat} {job : Job Secret} {inode : Nat} {name : String},
    machine.jobs[index]? = some job → job.stage.opened = some (inode, name) →
      machine.files.Kept writer.user inode (writer.stored job)
  apart : ∀ {index index' : Nat} {job job' : Job Secret} {inode : Nat} {name name' : String},
    index ≠ index' → machine.jobs[index]? = some job → machine.jobs[index']? = some job' →
      job.stage.opened = some (inode, name) → job'.stage.opened ≠ some (inode, name')

/-- A gateway without writes has nothing open. -/
theorem sound_idle (writer : Writer User Byte Secret) (files : FileSystem User Byte) :
    Sound writer (.idle files) where
  kept found := by cases found
  apart _ found := by cases found

section

variable {writer : Writer User Byte Secret} {files after : FileSystem User Byte} {job : Job Secret}
  {turn : Turn} {stage : Stage}

/-- What is not open to a write is left as it is by it. -/
theorem Advanced.kept_other (advanced : Advanced writer files job turn after stage) {inode : Nat}
    {content : List Byte} (kept : files.Kept writer.user inode content)
    (other : ∀ name, job.stage.opened ≠ some (inode, name)) :
    after.Kept writer.user inode content := by
  cases advanced with
  | idles | proceeds | completes => exact kept
  | creates opening tight turns created =>
      exact kept.concat (FileSystem.createNew_cases created).2.2.2
  | stores count writing =>
      refine kept.append_other (fun same => ?_) _
      exact other _ (by rw [writing, same]; rfl)
  | abandons =>
      rw [abandon]
      split
      · exact kept
      · exact kept
  | publishes persisting renamed =>
      obtain ⟨entry, -, rfl⟩ := Option.map_eq_some_iff.mp renamed
      exact kept

/-- What a write has open after a call holds what it has stored by then. -/
theorem Advanced.kept_own (advanced : Advanced writer files job turn after stage) {inode : Nat}
    {name : String} (own : ∀ inode name, job.stage.opened = some (inode, name) →
      files.Kept writer.user inode (writer.stored job))
    (opened : stage.opened = some (inode, name)) :
    after.Kept writer.user inode (writer.stored { job with stage := stage }) := by
  cases advanced with
  | idles closed idle => cases idle.symm.trans opened
  | creates opening tight turns created =>
      cases opened
      exact FileSystem.kept_created created tight
  | stores count writing =>
      cases opened
      have before := own inode name (by rw [writing]; rfl)
      simp only [stored, writing] at before
      simp only [stored, List.take_add]
      exact before.append _
  | proceeds open_ still complete next =>
      have before := own inode name (open_.trans (still.symm.trans opened))
      rw [complete] at before
      obtain rfl | ⟨rfl, -⟩ := next
      · exact before
      · exact before
  | completes | abandons | publishes => cases opened

/-- A file which a call opens is new, or it was open to the write before. -/
theorem Advanced.opened_cases (advanced : Advanced writer files job turn after stage) {inode : Nat}
    {name : String} (opened : stage.opened = some (inode, name)) :
    inode = files.inodes.length ∨ job.stage.opened = some (inode, name) := by
  cases advanced with
  | idles closed idle => cases idle.symm.trans opened
  | creates opening tight turns created =>
      cases opened
      exact .inl (FileSystem.createNew_cases created).2.1
  | stores count writing =>
      cases opened
      exact .inr (by rw [writing]; rfl)
  | proceeds open_ still complete next => exact .inr (open_.trans (still.symm.trans opened))
  | completes | abandons | publishes => cases opened

/-- One of the writes makes a call. -/
theorem Sound.advanced {machine : Machine User Byte Secret} (sound : Sound writer machine)
    {index : Nat} (found : machine.jobs[index]? = some job)
    (advanced : Advanced writer machine.files job turn after stage) :
    Sound writer ⟨after, machine.jobs.set index { job with stage := stage }, machine.loose⟩ := by
  have opens : ∀ {inode : Nat} {name : String}, stage.opened = some (inode, name) →
      ∀ {other : Nat} {job' : Job Secret} (name' : String), index ≠ other →
        machine.jobs[other]? = some job' → job'.stage.opened ≠ some (inode, name') := by
    intro inode name opened other job' name' apart found' opened'
    obtain rfl | before := advanced.opened_cases opened
    · exact Nat.lt_irrefl _ (sound.kept found' opened').lt
    · exact sound.apart apart found found' before opened'
  refine ⟨fun {other} job' inode name found' opened => ?_,
    fun {first second} one two inode name name' apart found' found'' opened opened' => ?_⟩
  · obtain ⟨rfl, rfl⟩ | ⟨apart, found'⟩ := Execution.getElem?_set_cases found found'
    · exact advanced.kept_own (fun inode name opened => sound.kept found opened) opened
    · exact advanced.kept_other (sound.kept found' opened)
        fun name' => sound.apart apart found' found opened
  · obtain ⟨rfl, rfl⟩ | ⟨-, one_found⟩ := Execution.getElem?_set_cases found found'
    · obtain ⟨rfl, rfl⟩ | ⟨-, two_found⟩ := Execution.getElem?_set_cases found found''
      · exact apart rfl
      · exact opens opened name' apart two_found opened'
    · obtain ⟨rfl, rfl⟩ | ⟨-, two_found⟩ := Execution.getElem?_set_cases found found''
      · exact opens opened' name (Ne.symm apart) one_found opened
      · exact sound.apart apart one_found two_found opened opened'

/-- Writes which have no file open yet begin. -/
theorem Sound.begin {machine : Machine User Byte Secret} (sound : Sound writer machine)
    (fresh : job.stage = .opening) :
    Sound writer ⟨machine.files, machine.jobs ++ [job], machine.loose⟩ := by
  have old : ∀ {index : Nat} {job' : Job Secret} {inode : Nat} {name : String},
      (machine.jobs ++ [job])[index]? = some job' → job'.stage.opened = some (inode, name) →
        machine.jobs[index]? = some job' := by
    intro index job' inode name found opened
    obtain found | ⟨-, rfl⟩ := Execution.getElem?_concat_cases found
    · exact found
    · rw [fresh] at opened
      cases opened
  exact ⟨fun found opened => sound.kept (old found opened) opened,
    fun apart found found' opened opened' =>
      sound.apart apart (old found opened) (old found' opened') opened opened'⟩

/-- Files change without the writes. -/
theorem Sound.of_kept {machine machine' : Machine User Byte Secret} (sound : Sound writer machine)
    (jobs : machine'.jobs = machine.jobs)
    (kept : ∀ {inode : Nat} {content : List Byte}, machine.files.Kept writer.user inode content →
      machine'.files.Kept writer.user inode content) : Sound writer machine' where
  kept found opened := kept (sound.kept (jobs ▸ found) opened)
  apart different found found' := sound.apart different (jobs ▸ found) (jobs ▸ found')

/-- The writes, the names, and what the files of the gateway hold stay as they are. -/
structure Leaves (writer : Writer User Byte Secret) (machine machine' : Machine User Byte Secret) :
    Prop where
  jobs : machine'.jobs = machine.jobs
  kept : ∀ {inode : Nat} {content : List Byte}, machine.files.Kept writer.user inode content →
    machine'.files.Kept writer.user inode content
  entries : machine'.files.entries = machine.files.entries

theorem tightenToOwnerOnly_leaves (writer : Writer User Byte Secret)
    (machine : Machine User Byte Secret) (path : String) :
    Leaves writer machine (tightenToOwnerOnly machine path) := by
  rw [tightenToOwnerOnly]
  split
  · exact ⟨rfl, id, rfl⟩
  · split
    · exact ⟨rfl, id, rfl⟩
    · exact ⟨rfl, id, rfl⟩

theorem setPermissions_leaves [DecidableEq User] (writer : Writer User Byte Secret)
    (machine : Machine User Byte Secret) (index : Nat) (fails : Bool) :
    Leaves writer machine (writer.setPermissions machine index fails) := by
  rw [setPermissions]
  split
  · exact ⟨rfl, id, rfl⟩
  · cases fails with
    | true => exact ⟨rfl, id, rfl⟩
    | false =>
        exact ⟨rfl, fun kept => kept.chmod (by decide) _, machine.files.chmod_entries _ _ _⟩

/-- A stranger who leaves the names alone. -/
theorem tamper_leaves [DecidableEq User] {machine : Machine User Byte Secret} {stranger : User}
    (other : stranger ≠ writer.user) {tampering : FileSystem.Tampering Byte}
    (leaves : ∀ entries, tampering ≠ .arrange entries) :
    Leaves writer machine { machine with files := machine.files.tamper stranger tampering } where
  jobs := rfl
  kept kept := kept.tamper other tampering
  entries := by
    cases tampering with
    | arrange entries => exact absurd rfl (leaves entries)
    | create | overwrite | chmod => rfl

/-- Whatever the gateway and a stranger do, open files stay the gateway's own. -/
theorem Sound.step [DecidableEq User] {machine : Machine User Byte Secret}
    (sound : Sound writer machine) {stranger : User} (other : stranger ≠ writer.user)
    (action : Action Byte Secret) : Sound writer (writer.step stranger machine action) := by
  cases action with
  | writeOwnerOnlyNew path secret => exact sound.begin rfl
  | writeOwnerOnlyAtomic path secret => exact sound.begin rfl
  | advance index turn =>
      rw [Writer.step]
      split
      · exact sound
      · rename_i job found
        exact sound.advanced found (advance_cases writer machine.files job turn)
  | tightenToOwnerOnly path =>
      have leaves := tightenToOwnerOnly_leaves writer machine path
      exact sound.of_kept leaves.jobs leaves.kept
  | setPermissions index fails =>
      have leaves := setPermissions_leaves writer machine index fails
      exact sound.of_kept leaves.jobs leaves.kept
  | crash => exact sound_idle writer machine.files
  | tamper tampering => exact sound.of_kept rfl fun kept => kept.tamper other tampering

end

/-! ## What a stranger learns -/

section

variable {user : User} {temporary : TemporaryFiles} {holding holding' : Secret → List Byte}
  {files files' : FileSystem User Byte}

/-- A call of a write turns out the same whatever its secret, and brings no difference out. -/
theorem advance_indistinct (temporary : TemporaryFiles)
    (sizes : ∀ secret, (holding secret).length = (holding' secret).length)
    (indistinct : files.Indistinct user files') {job : Job Secret}
    (own : ∀ inode name, job.stage.opened = some (inode, name) →
      ∃ content, files.Kept user inode content) (turn : Turn) :
    (advance ⟨user, temporary, holding⟩ files job turn).2 =
        (advance ⟨user, temporary, holding'⟩ files' job turn).2 ∧
      (advance ⟨user, temporary, holding⟩ files job turn).1.Indistinct user
        (advance ⟨user, temporary, holding'⟩ files' job turn).1 := by
  have abandons : ∀ name, (abandon files job name).2 = (abandon files' job name).2 ∧
      (abandon files job name).1.Indistinct user (abandon files' job name).1 := by
    intro name
    refine ⟨rfl, ?_⟩
    rw [abandon, abandon]
    split
    · exact indistinct.unlink name
    · exact indistinct
  obtain ⟨path, atomic, secret, stage⟩ := job
  cases stage with
  | opening =>
      cases turn with
      | fails => exact ⟨rfl, indistinct⟩
      | succeeds drawn stored =>
          simp only [advance, create]
          obtain ⟨taken, taken'⟩ | ⟨inode, after, after', created, created', alike⟩ :=
            indistinct.createNew user (if atomic then temporary.mode else ownerOnly)
              (if atomic then drawn else path)
          · rw [taken, taken']
            exact ⟨rfl, indistinct⟩
          · rw [created, created']
            exact ⟨rfl, alike⟩
  | writing inode name written =>
      obtain ⟨content, kept⟩ := own inode name rfl
      simp only [advance, ← sizes secret]
      split
      · exact ⟨rfl, indistinct⟩
      · split
        · exact abandons name
        · exact abandons name
        · exact ⟨rfl, indistinct.append kept (by simp [sizes secret])⟩
  | syncing inode name =>
      cases turn with
      | fails => exact abandons name
      | succeeds drawn stored => exact ⟨rfl, indistinct⟩
  | persisting inode name =>
      cases turn with
      | fails => exact abandons name
      | succeeds drawn stored =>
          simp only [advance]
          obtain ⟨gone, gone'⟩ | ⟨after, after', renamed, renamed', alike⟩ :=
            indistinct.rename name path
          · rw [gone, gone']
            exact abandons name
          · rw [renamed, renamed']
            exact ⟨rfl, alike⟩
  | done => exact ⟨rfl, indistinct⟩
  | failed => exact ⟨rfl, indistinct⟩

/-- Two machines whose writes differ in their secrets alone. -/
structure Hidden (user : User) (temporary : TemporaryFiles) (holding : Secret → List Byte)
    (machine machine' : Machine User Byte Secret) : Prop where
  files : machine.files.Indistinct user machine'.files
  jobs : machine.jobs = machine'.jobs
  loose : machine.loose = machine'.loose
  sound : Sound ⟨user, temporary, holding⟩ machine

variable [DecidableEq User]

theorem Hidden.step (sizes : ∀ secret, (holding secret).length = (holding' secret).length)
    {machine machine' : Machine User Byte Secret}
    (hidden : Hidden user temporary holding machine machine') {stranger : User}
    (other : stranger ≠ user) (action : Action Byte Secret) :
    Hidden user temporary holding
      (Writer.step ⟨user, temporary, holding⟩ stranger machine action)
      (Writer.step ⟨user, temporary, holding'⟩ stranger machine' action) := by
  have after := hidden.sound.step other action
  obtain ⟨indistinct, jobs, loose, sound⟩ := hidden
  cases action with
  | writeOwnerOnlyNew path secret => exact ⟨indistinct, by simp [Writer.step, jobs], loose, after⟩
  | writeOwnerOnlyAtomic path secret =>
      exact ⟨indistinct, by simp [Writer.step, jobs], loose, after⟩
  | advance index turn =>
      simp only [Writer.step, ← jobs] at after ⊢
      cases found : machine.jobs[index]? with
      | none => exact ⟨indistinct, jobs, loose, sound⟩
      | some job =>
          obtain ⟨stages, alike⟩ := advance_indistinct temporary sizes indistinct
            (fun inode name opened => ⟨_, sound.kept found opened⟩) turn
          rw [found] at after
          exact ⟨alike, by simp only [stages], loose, after⟩
  | tightenToOwnerOnly path =>
      simp only [Writer.step, tightenToOwnerOnly, ← indistinct.modeOf_eq] at after ⊢
      cases machine.files.modeOf path with
      | none => exact ⟨indistinct, jobs, loose, sound⟩
      | some mode =>
          dsimp only at after ⊢
          split
          · exact ⟨indistinct, jobs, by rw [loose], ⟨sound.kept, sound.apart⟩⟩
          · exact ⟨indistinct, jobs, loose, sound⟩
  | setPermissions index fails =>
      simp only [Writer.step, setPermissions, ← loose] at after ⊢
      cases found : machine.loose[index]? with
      | none => exact ⟨indistinct, jobs, loose, sound⟩
      | some path =>
          rw [found] at after
          refine ⟨?_, jobs, rfl, after⟩
          cases fails with
          | true => exact indistinct
          | false => exact indistinct.chmod (by decide) path
  | crash => exact ⟨indistinct, rfl, rfl, after⟩
  | tamper tampering => exact ⟨indistinct.tamper other tampering, jobs, loose, after⟩

end

end Writer

/-- Another user of the machine, who may do with the directory and the files open to it what it
likes, between any two calls of the gateway and through any crashes, sees the same whatever the
gateway writes. -/
theorem secrets_unseen {User Byte Secret : Type} [DecidableEq User] {user stranger : User}
    (other : stranger ≠ user) (temporary : TemporaryFiles) {holding holding' : Secret → List Byte}
    (sizes : ∀ secret, (holding secret).length = (holding' secret).length)
    {files files' : FileSystem User Byte} (indistinct : files.Indistinct user files')
    (actions : List (Action Byte Secret)) :
    Execution.outputs (Writer.perform ⟨user, temporary, holding⟩ stranger) (.idle files) actions =
      Execution.outputs (Writer.perform ⟨user, temporary, holding'⟩ stranger) (.idle files')
        actions := by
  have simulates : ∀ machine machine', ∀ action ∈ actions,
      Writer.Hidden user temporary holding machine machine' →
        (Writer.perform ⟨user, temporary, holding⟩ stranger machine action).1 =
            (Writer.perform ⟨user, temporary, holding'⟩ stranger machine' action).1 ∧
          Writer.Hidden user temporary holding
            (Execution.next (Writer.perform ⟨user, temporary, holding⟩ stranger) machine action)
            (Execution.next (Writer.perform ⟨user, temporary, holding'⟩ stranger) machine'
              action) := by
    intro machine machine' action _ hidden
    have after := hidden.step sizes other action
    exact ⟨after.files.view_eq other, after⟩
  have initially : Writer.Hidden user temporary holding (.idle files) (.idle files') :=
    ⟨indistinct, rfl, rfl, Writer.sound_idle _ files⟩
  exact List.forall₂_eq_eq_eq ▸ (Execution.simulation_forall₂ simulates initially).1

private def temporaryFiles : TemporaryFiles := ⟨0o600, fun name => name = ".tmpA", by decide⟩

/-- The guest plants a link at the name of a key, later names the key after its creation, and the
gateway crashes before the second byte. -/
private def keyActions : List (Action Nat String) :=
  [.tamper (.arrange fun name => if name = "key.pem" then some (.link "guest") else none),
    .writeOwnerOnlyNew "key.pem" "key", .advance 0 (.succeeds "" 0),
    .tamper (.arrange fun _ => none), .writeOwnerOnlyNew "key.pem" "key",
    .advance 1 (.succeeds "" 0), .tamper (.overwrite 1 [7]), .advance 1 (.succeeds "" 1), .crash,
    .tightenToOwnerOnly "key.pem", .setPermissions 0 false]

private def keyFiles (content : List Nat) : FileSystem String Nat :=
  ⟨fun _ => none, [⟨"gateway", 0o600, content⟩]⟩

theorem secrets_unseen_key :
    Execution.outputs (Writer.perform ⟨"gateway", temporaryFiles, fun _ => [1, 2]⟩ "guest")
        (.idle (keyFiles [5])) keyActions =
      Execution.outputs (Writer.perform ⟨"gateway", temporaryFiles, fun _ => [3, 4]⟩ "guest")
        (.idle (keyFiles [6])) keyActions ∧
      (Execution.run (Writer.step ⟨"gateway", temporaryFiles, fun _ => [1, 2]⟩ "guest")
        (.idle (keyFiles [5])) keyActions).files.read "key.pem" = some [1] ∧
      (Execution.run (Writer.step ⟨"gateway", temporaryFiles, fun _ => [3, 4]⟩ "guest")
        (.idle (keyFiles [6])) keyActions).files.read "key.pem" = some [3] :=
  ⟨secrets_unseen (by decide) temporaryFiles (fun _ => rfl)
    ⟨rfl, .cons ⟨rfl, rfl, rfl, fun _ => ⟨rfl, by decide⟩⟩ .nil⟩ keyActions,
    by decide +kernel, by decide +kernel⟩

/-! ## What a snapshot holds -/

namespace Writer

variable {User Byte Secret : Type}

/-- The write which an action completes, if it is one of the path. -/
def completed (writer : Writer User Byte Secret) (path : String)
    (machine : Machine User Byte Secret) : Action Byte Secret → Option Secret
  | .advance index turn =>
      machine.jobs[index]?.bind fun job =>
        if job.path = path ∧ job.stage ≠ .done ∧
            (writer.advance machine.files job turn).2 = .done then some job.secret
        else none
  | _ => none

/-- Nobody else writes to the directory, temporary names are names of nothing else, and the path is
only written atomically. -/
def Orderly (writer : Writer User Byte Secret) (path : String) : Action Byte Secret → Prop
  | .writeOwnerOnlyNew other _ => other ≠ path ∧ ¬writer.temporary.names other
  | .writeOwnerOnlyAtomic other _ => ¬writer.temporary.names other
  | .advance _ turn => ∀ drawn stored, turn = .succeeds drawn stored → writer.temporary.names drawn
  | .tightenToOwnerOnly _ | .setPermissions _ _ | .crash => True
  | .tamper tampering => ∀ entries, tampering ≠ .arrange entries

/-- There is no file under the path, or one of the gateway's own, which no write has open. -/
def Holds (writer : Writer User Byte Secret) (path : String)
    (machine : Machine User Byte Secret) : Option (List Byte) → Prop
  | none => machine.files.entries path = none
  | some content => ∃ inode, machine.files.entries path = some (.file inode) ∧
      machine.files.Kept writer.user inode content ∧
      ∀ (index : Nat) (job : Job Secret) (name : String), machine.jobs[index]? = some job →
        job.stage.opened ≠ some (inode, name)

/-- The names of a write: of the file to be, and of the temporary one it has open. -/
structure Named (writer : Writer User Byte Secret) (path : String) (files : FileSystem User Byte)
    (job : Job Secret) : Prop where
  target : ¬writer.temporary.names job.path
  atomic : job.path = path → job.atomic
  persisting : ∀ inode name, job.stage = .persisting inode name → job.atomic
  opened : job.atomic → ∀ inode name, job.stage.opened = some (inode, name) →
    writer.temporary.names name ∧ files.entries name = some (.file inode)

/-- What the path held at first, or what was last written there. -/
def current (writer : Writer User Byte Secret) (initial : Option (List Byte))
    (log : List Secret) : Option (List Byte) :=
  (log.getLast?.map writer.holding).or initial

structure Snapshot (writer : Writer User Byte Secret) (path : String)
    (initial : Option (List Byte)) (log : List Secret) (machine : Machine User Byte Secret) :
    Prop where
  sound : Sound writer machine
  named : ∀ (index : Nat) (job : Job Secret), machine.jobs[index]? = some job →
    Named writer path machine.files job
  holds : Holds writer path machine (writer.current initial log)

section

variable {writer : Writer User Byte Secret} {path : String} {machine : Machine User Byte Secret}
  {files after : FileSystem User Byte} {job : Job Secret} {turn : Turn} {stage : Stage}

/-- What the path holds is what is read there, and closed to others. -/
theorem Holds.read_eq {content : Option (List Byte)} (holds : Holds writer path machine content) :
    machine.files.read path = content ∧
      ∀ mode, machine.files.modeOf path = some mode → ¬IsLoose mode := by
  cases content with
  | none =>
      have missing : machine.files.resolve FileSystem.maxLinks path = none := by
        rw [FileSystem.maxLinks, FileSystem.resolve]
        rw [show machine.files.entries path = none from holds]
      refine ⟨by rw [FileSystem.read, missing]; rfl, fun mode shown => ?_⟩
      rw [FileSystem.modeOf, missing] at shown
      cases shown
  | some content =>
      obtain ⟨inode, leads, ⟨mode, tight, found⟩, -⟩ := holds
      have leads' : machine.files.resolve FileSystem.maxLinks path = some inode := by
        rw [FileSystem.maxLinks, FileSystem.resolve, leads]
      refine ⟨by rw [FileSystem.read, leads', Option.bind_some, found]; rfl, ?_⟩
      rw [FileSystem.modeOf, leads', Option.bind_some, found]
      intro shown same
      exact Option.some.inj same ▸ tight

/-- A call of a write which leaves what the path stands for leaves what it holds. -/
theorem Holds.advanced {content : Option (List Byte)} (holds : Holds writer path machine content)
    {index : Nat} (found : machine.jobs[index]? = some job)
    (advanced : Advanced writer machine.files job turn after stage)
    (entry : after.entries path = machine.files.entries path) :
    Holds writer path ⟨after, machine.jobs.set index { job with stage := stage }, machine.loose⟩
      content := by
  cases content with
  | none => exact entry.trans holds
  | some content =>
      obtain ⟨inode, leads, kept, closed⟩ := holds
      refine ⟨inode, entry.trans leads, advanced.kept_other kept
        (fun name => closed index job name found), fun other job' name found' opened => ?_⟩
      obtain ⟨rfl, rfl⟩ | ⟨-, found'⟩ := Execution.getElem?_set_cases found found'
      · obtain rfl | before := advanced.opened_cases opened
        · exact Nat.lt_irrefl _ kept.lt
        · exact closed _ job name found before
      · exact closed other job' name found' opened

theorem Holds.begin {content : Option (List Byte)} (holds : Holds writer path machine content)
    (closed : job.stage.opened = none) :
    Holds writer path ⟨machine.files, machine.jobs ++ [job], machine.loose⟩ content := by
  cases content with
  | none => exact holds
  | some content =>
      obtain ⟨inode, leads, kept, apart⟩ := holds
      refine ⟨inode, leads, kept, fun index job' name found => ?_⟩
      obtain found | ⟨-, rfl⟩ := Execution.getElem?_concat_cases found
      · exact apart index job' name found
      · intro opened
        cases closed.symm.trans opened

theorem Holds.of_leaves {machine' : Machine User Byte Secret} {content : Option (List Byte)}
    (holds : Holds writer path machine content) (leaves : Leaves writer machine machine') :
    Holds writer path machine' content := by
  obtain ⟨jobs, kept, entries⟩ := leaves
  cases content with
  | none => rwa [Holds, entries]
  | some content =>
      obtain ⟨inode, leads, own, apart⟩ := holds
      exact ⟨inode, entries ▸ leads, kept own, jobs ▸ apart⟩

theorem Holds.crash {content : Option (List Byte)} (holds : Holds writer path machine content) :
    Holds writer path (.idle machine.files) content := by
  cases content with
  | none => exact holds
  | some content =>
      obtain ⟨inode, leads, kept, -⟩ := holds
      exact ⟨inode, leads, kept, fun _ _ _ found => by cases found⟩

/-- A call changes no name but its own one, the one it gives to a new file and the one it
publishes. -/
theorem Advanced.entries_eq (advanced : Advanced writer files job turn after stage)
    (named : Named writer path files job)
    (draws : ∀ drawn stored, turn = .succeeds drawn stored → writer.temporary.names drawn)
    {name : String}
    (own : job.atomic → ∀ inode name', job.stage.opened = some (inode, name') → name ≠ name')
    (target : job.stage ≠ .done → stage = .done → name ≠ job.path)
    (free : files.entries name = none →
      ¬writer.temporary.names name ∧ (¬job.atomic → name ≠ job.path)) :
    after.entries name = files.entries name := by
  cases advanced with
  | idles | stores | proceeds | completes => rfl
  | creates opening tight turns created =>
      obtain ⟨none_, -, entries, -⟩ := FileSystem.createNew_cases created
      rw [entries]
      refine Function.update_of_ne (fun same => ?_) _ _
      obtain ⟨permanent, apart⟩ := free (same ▸ none_)
      split at same
      · exact permanent (same ▸ draws _ _ turns)
      · exact apart ‹_› same
  | abandons opened =>
      rw [abandon]
      split
      · exact Function.update_of_ne (own ‹_› _ _ opened) _ _
      · rfl
  | publishes persisting renamed =>
      have atomic := named.persisting _ _ persisting
      obtain ⟨entry, -, rfl⟩ := Option.map_eq_some_iff.mp renamed
      exact (Function.update_of_ne (target (by simp [persisting]) rfl) _ _).trans
        (Function.update_of_ne (own atomic _ _ (by rw [persisting]; rfl)) _ _)

/-- A write which is completed under the path has published its temporary file there. -/
theorem Advanced.published (advanced : Advanced writer files job turn after stage)
    (named : Named writer path files job) (here : job.path = path) (before : job.stage ≠ .done)
    (ends : stage = .done) : ∃ inode name, job.stage.opened = some (inode, name) ∧
      writer.stored job = writer.holding job.secret ∧ after.inodes = files.inodes ∧
        after.entries path = some (.file inode) := by
  cases advanced with
  | idles closed idle still => exact absurd (still ends) before
  | creates | stores | abandons => cases ends
  | proceeds opened still => rw [ends] at still; cases still
  | completes syncing own => exact absurd (named.atomic here) own
  | @publishes inode name after persisting renamed =>
      have opened : job.stage.opened = some (inode, name) := by rw [persisting]; rfl
      obtain ⟨entry, found, rfl⟩ := Option.map_eq_some_iff.mp renamed
      have own := (named.opened (named.atomic here) inode name opened).2
      obtain rfl : entry = .file inode := Option.some.inj (found.symm.trans own)
      refine ⟨inode, name, opened, by simp only [stored, persisting], rfl, ?_⟩
      rw [here]
      exact Function.update_self _ _ _

/-- The names of the write itself after a call. -/
theorem Advanced.named_own (advanced : Advanced writer files job turn after stage)
    (named : Named writer path files job)
    (draws : ∀ drawn stored, turn = .succeeds drawn stored → writer.temporary.names drawn) :
    Named writer path after { job with stage := stage } := by
  obtain ⟨target, atomic, persisting, opened⟩ := named
  refine ⟨target, atomic, fun inode name persists => ?_, fun own inode name opens => ?_⟩
  · cases advanced with
    | idles closed idle => rw [show stage = _ from persists] at idle; cases idle
    | creates | stores | completes | abandons | publishes => cases persists
    | proceeds open_ still complete next =>
        obtain rfl | ⟨-, own⟩ := next
        · cases persists
        · exact own
  · cases advanced with
    | idles closed idle => cases idle.symm.trans opens
    | creates opening tight turns created =>
        cases opens
        obtain ⟨-, -, entries, -⟩ := FileSystem.createNew_cases created
        refine ⟨?_, by rw [entries]; exact Function.update_self _ _ _⟩
        rw [if_pos own]
        exact draws _ _ turns
    | stores count writing =>
        cases opens
        exact opened own _ _ (by rw [writing]; rfl)
    | proceeds open_ still => exact opened own _ _ (open_.trans (still.symm.trans opens))
    | completes | abandons | publishes => cases opens

theorem current_concat (initial : Option (List Byte)) (log : List Secret) (secret : Secret) :
    writer.current initial (log ++ [secret]) = some (writer.holding secret) := by
  rw [current, List.getLast?_concat]
  rfl

theorem Snapshot.advanced {initial : Option (List Byte)} {log : List Secret}
    (snapshot : Snapshot writer path initial log machine) (permanent : ¬writer.temporary.names path)
    (draws : ∀ drawn stored, turn = .succeeds drawn stored → writer.temporary.names drawn)
    {index : Nat} (found : machine.jobs[index]? = some job)
    (advanced : Advanced writer machine.files job turn after stage) :
    Snapshot writer path initial
      (log ++ (if job.path = path ∧ job.stage ≠ .done ∧ stage = .done then some job.secret
        else none).toList)
      ⟨after, machine.jobs.set index { job with stage := stage }, machine.loose⟩ := by
  obtain ⟨sound, named, holds⟩ := snapshot
  have own := named index job found
  refine ⟨sound.advanced found advanced, fun other job' found' => ?_, ?_⟩
  · obtain ⟨rfl, rfl⟩ | ⟨apart, found'⟩ := Execution.getElem?_set_cases found found'
    · exact advanced.named_own own draws
    · obtain ⟨target, atomic, persisting, opened⟩ := named other job' found'
      refine ⟨target, atomic, persisting, fun whole inode name opens => ?_⟩
      obtain ⟨temporary, entry⟩ := opened whole inode name opens
      refine ⟨temporary, ?_⟩
      rw [advanced.entries_eq own draws, entry]
      · rintro whole' inode' _ opens' rfl
        have entry' := (own.opened whole' inode' _ opens').2
        cases entry.symm.trans entry'
        exact sound.apart apart found' found opens opens'
      · rintro - - rfl
        exact own.target temporary
      · exact fun missing => absurd (missing.symm.trans entry) nofun
  · by_cases published : job.path = path ∧ job.stage ≠ .done ∧ stage = .done
    · obtain ⟨here, before, ends⟩ := published
      obtain ⟨inode, name, opened, complete, same, entry⟩ :=
        advanced.published own here before ends
      rw [if_pos ⟨here, before, ends⟩, Option.toList_some, current_concat]
      have kept := sound.kept found opened
      rw [complete] at kept
      refine ⟨inode, entry, ?_, fun other job' name' found' opened' => ?_⟩
      · simpa only [FileSystem.Kept, same] using kept
      · obtain ⟨rfl, rfl⟩ | ⟨apart, found'⟩ := Execution.getElem?_set_cases found found'
        · rw [show stage = _ from ends] at opened'
          cases opened'
        · exact sound.apart apart found' found opened' opened
    · rw [if_neg published, Option.toList_none, List.append_nil]
      have entry : after.entries path = machine.files.entries path := by
        refine advanced.entries_eq own draws (fun whole inode name opened same => ?_)
          (fun before ends same => published ⟨same.symm, before, ends⟩)
          fun missing => ⟨permanent, fun partly same => ?_⟩
        · exact permanent (same ▸ (own.opened whole inode name opened).1)
        · exact partly (own.atomic same.symm)
      exact holds.advanced found advanced entry

/-- A write begins. -/
theorem Snapshot.begin {initial : Option (List Byte)} {log : List Secret}
    (snapshot : Snapshot writer path initial log machine) (opening : job.stage = .opening)
    (target : ¬writer.temporary.names job.path) (atomic : job.path = path → job.atomic) :
    Snapshot writer path initial log ⟨machine.files, machine.jobs ++ [job], machine.loose⟩ := by
  obtain ⟨sound, named, holds⟩ := snapshot
  have closed : job.stage.opened = none := by rw [opening]; rfl
  refine ⟨sound.begin opening, fun index job' found => ?_, ?_⟩
  · obtain found | ⟨-, rfl⟩ := Execution.getElem?_concat_cases found
    · exact named index job' found
    · refine ⟨target, atomic, fun inode name persists => ?_, fun _ inode name opened => ?_⟩
      · cases opening.symm.trans persists
      · cases closed.symm.trans opened
  · exact holds.begin closed

theorem Snapshot.of_leaves {machine' : Machine User Byte Secret} {initial : Option (List Byte)}
    {log : List Secret} (snapshot : Snapshot writer path initial log machine)
    (leaves : Leaves writer machine machine') : Snapshot writer path initial log machine' := by
  obtain ⟨sound, named, holds⟩ := snapshot
  refine ⟨sound.of_kept leaves.jobs leaves.kept, fun index job found => ?_,
    holds.of_leaves leaves⟩
  obtain ⟨target, atomic, persisting, opened⟩ := named index job (leaves.jobs ▸ found)
  exact ⟨target, atomic, persisting, by rwa [leaves.entries]⟩

/-- A gateway without writes. -/
theorem Snapshot.idle {initial : Option (List Byte)} {log : List Secret}
    {files : FileSystem User Byte}
    (holds : Holds writer path (.idle files) (writer.current initial log)) :
    Snapshot writer path initial log (.idle files) where
  sound := sound_idle writer files
  named _ _ found := by cases found
  holds := holds

theorem Snapshot.step [DecidableEq User] {initial : Option (List Byte)} {log : List Secret}
    (snapshot : Snapshot writer path initial log machine) (permanent : ¬writer.temporary.names path)
    {stranger : User} (other : stranger ≠ writer.user) {action : Action Byte Secret}
    (orderly : writer.Orderly path action) :
    Snapshot writer path initial (log ++ (writer.completed path machine action).toList)
      (writer.step stranger machine action) := by
  have quiet : ∀ {machine' : Machine User Byte Secret}, Snapshot writer path initial log machine' →
      Snapshot writer path initial (log ++ (none : Option Secret).toList) machine' := by
    intro machine' snapshot
    rwa [Option.toList_none, List.append_nil]
  cases action with
  | writeOwnerOnlyNew target secret =>
      exact quiet (snapshot.begin rfl orderly.2 fun same => absurd same orderly.1)
  | writeOwnerOnlyAtomic target secret => exact quiet (snapshot.begin rfl orderly fun _ => rfl)
  | advance index turn =>
      rw [completed, Writer.step]
      cases found : machine.jobs[index]? with
      | none => exact quiet snapshot
      | some job =>
          exact snapshot.advanced permanent orderly found
            (advance_cases writer machine.files job turn)
  | tightenToOwnerOnly target =>
      exact quiet (snapshot.of_leaves (tightenToOwnerOnly_leaves writer machine target))
  | setPermissions index fails =>
      exact quiet (snapshot.of_leaves (setPermissions_leaves writer machine index fails))
  | crash => exact quiet (.idle snapshot.holds.crash)
  | tamper tampering => exact quiet (snapshot.of_leaves (tamper_leaves other orderly))

end

end Writer

/-- While nobody else writes to its directory, a path which is only written atomically holds at any
moment, a crash or a failed write included, all of what was last written there completely, and
nobody else may open it. -/
theorem snapshots_whole {User Byte Secret : Type} [DecidableEq User]
    (writer : Writer User Byte Secret) {path : String} (permanent : ¬writer.temporary.names path)
    {stranger : User} (other : stranger ≠ writer.user) {files : FileSystem User Byte}
    {initial : Option (List Byte)} (holds : writer.Holds path (.idle files) initial)
    {actions : List (Action Byte Secret)}
    (orderly : ∀ action ∈ actions, writer.Orderly path action) :
    let machine := Execution.run (writer.step stranger) (.idle files) actions
    let log := Execution.events (writer.completed path) (writer.step stranger) (.idle files) actions
    machine.files.read path = (log.getLast?.map writer.holding).or initial ∧
      ∀ mode, machine.files.modeOf path = some mode → ¬IsLoose mode := by
  intro machine log
  have preserved : ∀ (log : List Secret) (machine : Machine User Byte Secret)
      (action : Action Byte Secret), writer.Snapshot path initial log machine →
        writer.Orderly path action →
          writer.Snapshot path initial (log ++ (writer.completed path machine action).toList)
            (writer.step stranger machine action) :=
    fun _ _ _ snapshot allowed => snapshot.step permanent other allowed
  have snapshot : writer.Snapshot path initial log machine :=
    Execution.invariant_events preserved (.idle holds)
      (Execution.along_of_forall_mem _ orderly)
  exact snapshot.holds.read_eq

private def snapshotWriter : Writer String Nat Nat :=
  ⟨"gateway", temporaryFiles, fun secret => [secret, secret]⟩

/-- A first snapshot is written in two parts, a second one is cut short by a crash. -/
private def snapshotActions : List (Action Nat Nat) :=
  [.writeOwnerOnlyAtomic "store.json" 1, .advance 0 (.succeeds ".tmpA" 0),
    .advance 0 (.succeeds ".tmpA" 1), .tamper (.overwrite 0 []), .advance 0 (.succeeds ".tmpA" 1),
    .advance 0 .fails, .advance 0 (.succeeds ".tmpA" 0), .advance 0 (.succeeds ".tmpA" 0),
    .writeOwnerOnlyAtomic "store.json" 2, .advance 1 (.succeeds ".tmpA" 0),
    .advance 1 (.succeeds ".tmpA" 1), .crash]

theorem snapshots_whole_cut :
    let machine := Execution.run (snapshotWriter.step "guest") (.idle ⟨fun _ => none, []⟩)
      snapshotActions
    let log := Execution.events (snapshotWriter.completed "store.json")
      (snapshotWriter.step "guest") (.idle ⟨fun _ => none, []⟩) snapshotActions
    (machine.files.read "store.json" = (log.getLast?.map snapshotWriter.holding).or none ∧
      ∀ mode, machine.files.modeOf "store.json" = some mode → ¬IsLoose mode) ∧
      log = [1] ∧ machine.files.read "store.json" = some [1, 1] :=
  have permanent : ¬snapshotWriter.temporary.names "store.json" := by
    simp [snapshotWriter, temporaryFiles]
  have missing : snapshotWriter.Holds "store.json" (.idle ⟨fun _ => none, []⟩) none := rfl
  ⟨snapshots_whole snapshotWriter permanent (by decide) missing
    (by simp [snapshotActions, Writer.Orderly, snapshotWriter, temporaryFiles]),
    by decide +kernel, by decide +kernel⟩

end PushGateway.Secretfile
