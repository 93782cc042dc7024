import PushGateway.Secretfile

/-!
# Key files

A key is written once, under a name which nothing has yet, and read by two calls of the system, one
for the permissions and one for the bytes.  Whatever other writes and another user do meanwhile, the
first key written completely is the one which is read from then on.
-/

namespace PushGateway.Secretfile

/-- `ENV_STRICT_KEY_PERMS`. -/
def envStrictKeyPerms : String := "GATEWAY_STRICT_KEY_PERMS"

/-- Four octal digits, or more if it takes more. -/
def octal (mode : Nat) : String :=
  let digits := Nat.toDigits 8 mode
  String.ofList (List.replicate (4 - digits.length) '0' ++ digits)

variable {User Byte Secret : Type}

/-- Refuse a file which others may open, if that is asked for. -/
def checkPermissions (files : FileSystem User Byte) (path what : String) (strict : Bool) :
    Except String Unit :=
  match files.modeOf path with
  | none => .ok ()
  | some mode =>
      if ¬IsLoose mode then .ok ()
      else if strict then
        .error (what ++ " " ++ path ++ " has mode " ++ octal (mode &&& 0o777) ++ "; " ++
          envStrictKeyPerms ++ " requires owner-only permissions (chmod 600)")
      else .ok ()

/-- Read a secret file; its permissions are checked when the files are as in `early`, and its bytes
are read when they are as in `late`. -/
def readSecretFileWith (early late : FileSystem User Byte) (path what : String) (strict : Bool)
    (reason : String) : Except String (List Byte) := do
  checkPermissions early path what strict
  match late.read path with
  | some bytes => .ok bytes
  | none => .error ("read " ++ what ++ " " ++ path ++ ": " ++ reason)

theorem checkPermissions_eq_ok_iff (files : FileSystem User Byte) (path what : String)
    (strict : Bool) : checkPermissions files path what strict = .ok () ↔
      (strict = true → ∀ mode, files.modeOf path = some mode → ¬IsLoose mode) := by
  rw [checkPermissions]
  cases files.modeOf path with
  | none => simp
  | some mode =>
      dsimp only
      split
      · simp [*]
      · cases strict with
        | false => simp
        | true => simp_all

example : octal 0o644 = "0644" := by decide

/-! ## A key which is written -/

namespace Writer

/-- Nobody else writes to the directory, temporary names are names of nothing else, and the path is
never written to atomically. -/
def Guarded (writer : Writer User Byte Secret) (path : String) : Action Byte Secret → Prop
  | .writeOwnerOnlyAtomic other _ => other ≠ path
  | .advance _ turn => ∀ drawn stored, turn = .succeeds drawn stored → writer.temporary.names drawn
  | .writeOwnerOnlyNew _ _ | .tightenToOwnerOnly _ | .setPermissions _ _ | .crash => True
  | .tamper tampering => ∀ entries, tampering ≠ .arrange entries

/-- A write of the path has the file open which is there, and other writes have other names. -/
structure Keyed (writer : Writer User Byte Secret) (path : String) (files : FileSystem User Byte)
    (job : Job Secret) : Prop where
  whole : job.path = path → ¬job.atomic
  persisting : ∀ inode name, job.stage = .persisting inode name → job.atomic
  temporary : job.atomic → ∀ inode name, job.stage.opened = some (inode, name) →
    writer.temporary.names name
  here : job.path = path → ∀ inode name, job.stage.opened = some (inode, name) →
    files.entries path = some (.file inode)

/-- No key is written completely yet, or one is, and the path holds it. -/
structure Keeping (writer : Writer User Byte Secret) (path : String) (log : List Secret)
    (machine : Machine User Byte Secret) : Prop where
  sound : Sound writer machine
  keyed : ∀ (index : Nat) (job : Job Secret), machine.jobs[index]? = some job →
    Keyed writer path machine.files job
  holds : log = [] ∨ ∃ secret, log = [secret] ∧
    Holds writer path machine (some (writer.holding secret))

section

variable {writer : Writer User Byte Secret} {path : String} {machine : Machine User Byte Secret}
  {files after : FileSystem User Byte} {job : Job Secret} {turn : Turn} {stage : Stage}
  {log : List Secret}

/-- A call leaves what the path stands for, or creates a file there. -/
theorem Advanced.entry_cases (advanced : Advanced writer files job turn after stage)
    (keyed : Keyed writer path files job) (permanent : ¬writer.temporary.names path) :
    after.entries path = files.entries path ∨
      files.entries path = none ∧ ∀ inode name, stage.opened = some (inode, name) →
        after.entries path = some (.file inode) := by
  have apart : ∀ {name}, writer.temporary.names name → path ≠ name :=
    fun temporary same => permanent (same ▸ temporary)
  cases advanced with
  | idles | stores | proceeds | completes => exact .inl rfl
  | @creates inode mode stored drawn after opening tight turns created =>
      obtain ⟨free, -, entries, -⟩ := FileSystem.createNew_cases created
      rw [entries]
      by_cases same : path = if job.atomic then drawn else job.path
      · refine .inr ⟨same ▸ free, fun inode name opened => ?_⟩
        cases opened
        exact same ▸ Function.update_self _ _ _
      · exact .inl (Function.update_of_ne same _ _)
  | abandons opened =>
      rw [abandon]
      split
      · rename_i atomic
        exact .inl (Function.update_of_ne (apart (keyed.temporary atomic _ _ opened)) _ _)
      · exact .inl rfl
  | publishes persisting renamed =>
      have atomic := keyed.persisting _ _ persisting
      have elsewhere : path ≠ job.path := fun same => keyed.whole same.symm atomic
      have temporary := keyed.temporary atomic _ _ (by rw [persisting]; rfl)
      obtain ⟨entry, -, rfl⟩ := Option.map_eq_some_iff.mp renamed
      exact .inl ((Function.update_of_ne elsewhere _ _).trans
        (Function.update_of_ne (apart temporary) _ _))

/-- The names of the write itself after a call. -/
theorem Advanced.keyed_own (advanced : Advanced writer files job turn after stage)
    (keyed : Keyed writer path files job) (permanent : ¬writer.temporary.names path)
    (draws : ∀ drawn stored, turn = .succeeds drawn stored → writer.temporary.names drawn) :
    Keyed writer path after { job with stage := stage } where
  whole := keyed.whole
  persisting inode name persists := by
    cases advanced with
    | idles closed idle => rw [show stage = _ from persists] at idle; cases idle
    | creates | stores | completes | abandons | publishes => cases persists
    | proceeds opened still complete next =>
        obtain rfl | ⟨-, atomic⟩ := next
        · cases persists
        · exact atomic
  temporary atomic inode name opens := by
    cases advanced with
    | idles closed idle => cases idle.symm.trans opens
    | creates opening tight turns created =>
        cases opens
        rw [if_pos atomic]
        exact draws _ _ turns
    | stores count writing =>
        cases opens
        exact keyed.temporary atomic _ _ (by rw [writing]; rfl)
    | proceeds opened still =>
        exact keyed.temporary atomic _ _ (opened.trans (still.symm.trans opens))
    | completes | abandons | publishes => cases opens
  here same inode name opens := by
    obtain entry | ⟨free, created⟩ := advanced.entry_cases keyed permanent
    · rw [entry]
      cases advanced with
      | idles closed idle => cases idle.symm.trans opens
      | creates opening tight turns created =>
          obtain ⟨-, -, entries, -⟩ := FileSystem.createNew_cases created
          cases opens
          rw [← entry, entries, if_neg (keyed.whole same), same]
          exact Function.update_self _ _ _
      | stores count writing =>
          cases opens
          exact keyed.here same _ _ (by rw [writing]; rfl)
      | proceeds opened still => exact keyed.here same _ _ (opened.trans (still.symm.trans opens))
      | completes | abandons | publishes => cases opens
    · exact created inode name opens

/-- A write of the path which is completed has stored its key in the file which is there. -/
theorem Advanced.kept_completed (advanced : Advanced writer files job turn after stage)
    (keyed : Keyed writer path files job) (same : job.path = path) (before : job.stage ≠ .done)
    (ends : stage = .done) : ∃ inode name, job.stage.opened = some (inode, name) ∧
      writer.stored job = writer.holding job.secret ∧ after = files := by
  cases advanced with
  | idles closed idle still => exact absurd (still ends) before
  | creates | stores | abandons => cases ends
  | proceeds opened still => rw [ends] at still; cases still
  | completes syncing own =>
      exact ⟨_, _, by rw [syncing]; rfl, by simp only [stored, syncing], rfl⟩
  | publishes persisting => exact absurd (keyed.persisting _ _ persisting) (keyed.whole same)

theorem Keeping.advanced (keeping : Keeping writer path log machine)
    (permanent : ¬writer.temporary.names path)
    (draws : ∀ drawn stored, turn = .succeeds drawn stored → writer.temporary.names drawn)
    {index : Nat} (found : machine.jobs[index]? = some job)
    (advanced : Advanced writer machine.files job turn after stage) :
    Keeping writer path
      (log ++ (if job.path = path ∧ job.stage ≠ .done ∧ stage = .done then some job.secret
        else none).toList)
      ⟨after, machine.jobs.set index { job with stage := stage }, machine.loose⟩ := by
  obtain ⟨sound, keyed, holds⟩ := keeping
  have own := keyed index job found
  have entry : ∀ {inode : Nat}, machine.files.entries path = some (.file inode) →
      after.entries path = machine.files.entries path := by
    intro inode leads
    obtain entry | ⟨free, -⟩ := advanced.entry_cases own permanent
    · exact entry
    · cases free.symm.trans leads
  refine ⟨sound.advanced found advanced, fun other job' found' => ?_, ?_⟩
  · obtain ⟨rfl, rfl⟩ | ⟨apart, found'⟩ := Execution.getElem?_set_cases found found'
    · exact advanced.keyed_own own permanent draws
    · obtain ⟨whole, persisting, temporary, here⟩ := keyed other job' found'
      refine ⟨whole, persisting, temporary, fun same inode name opened => ?_⟩
      have leads := here same inode name opened
      exact (entry leads).trans leads
  · by_cases completes : job.path = path ∧ job.stage ≠ .done ∧ stage = .done
    · obtain ⟨same, before, ends⟩ := completes
      obtain ⟨inode, name, opened, complete, rfl⟩ := advanced.kept_completed own same before ends
      have leads := own.here same inode name opened
      rw [if_pos ⟨same, before, ends⟩, Option.toList_some]
      obtain rfl | ⟨secret, rfl, inode', leads', -, closed⟩ := holds
      · refine .inr ⟨job.secret, rfl, inode, leads, complete ▸ sound.kept found opened,
          fun other job' name' found' opened' => ?_⟩
        obtain ⟨rfl, rfl⟩ | ⟨apart, found'⟩ := Execution.getElem?_set_cases found found'
        · rw [show stage = _ from ends] at opened'
          cases opened'
        · exact sound.apart apart found' found opened' opened
      · -- The file of the first key is there, and it is closed.
        cases leads.symm.trans leads'
        exact absurd opened (closed index job name found)
    · rw [if_neg completes, Option.toList_none, List.append_nil]
      refine holds.imp_right fun ⟨secret, same, holds⟩ => ⟨secret, same, ?_⟩
      have ⟨_, leads, _⟩ := holds
      exact holds.advanced found advanced (entry leads)

/-- A write begins. -/
theorem Keeping.begin (keeping : Keeping writer path log machine) (opening : job.stage = .opening)
    (whole : job.path = path → ¬job.atomic) :
    Keeping writer path log ⟨machine.files, machine.jobs ++ [job], machine.loose⟩ := by
  obtain ⟨sound, keyed, holds⟩ := keeping
  have closed : job.stage.opened = none := by rw [opening]; rfl
  refine ⟨sound.begin opening, fun index job' found => ?_, ?_⟩
  · obtain found | ⟨-, rfl⟩ := Execution.getElem?_concat_cases found
    · exact keyed index job' found
    · refine ⟨whole, fun inode name persists => ?_, fun _ inode name opened => ?_,
        fun _ inode name opened => ?_⟩
      · cases opening.symm.trans persists
      · cases closed.symm.trans opened
      · cases closed.symm.trans opened
  · exact holds.imp_right fun ⟨secret, same, holds⟩ => ⟨secret, same, holds.begin closed⟩

theorem Keeping.of_leaves {machine' : Machine User Byte Secret}
    (keeping : Keeping writer path log machine) (leaves : Leaves writer machine machine') :
    Keeping writer path log machine' := by
  obtain ⟨sound, keyed, holds⟩ := keeping
  refine ⟨sound.of_kept leaves.jobs leaves.kept, fun index job found => ?_,
    holds.imp_right fun ⟨secret, same, holds⟩ => ⟨secret, same, holds.of_leaves leaves⟩⟩
  obtain ⟨whole, persisting, temporary, here⟩ := keyed index job (leaves.jobs ▸ found)
  exact ⟨whole, persisting, temporary, by rwa [leaves.entries]⟩

/-- A gateway without writes. -/
theorem keeping_idle (writer : Writer User Byte Secret) (path : String)
    (files : FileSystem User Byte) : Keeping writer path [] (.idle files) where
  sound := sound_idle writer files
  keyed _ _ found := by cases found
  holds := .inl rfl

/-- The gateway stops with all its writes. -/
theorem Keeping.crash (keeping : Keeping writer path log machine) :
    Keeping writer path log (.idle machine.files) where
  sound := sound_idle writer machine.files
  keyed _ _ found := by cases found
  holds := keeping.holds.imp_right fun ⟨secret, same, holds⟩ => ⟨secret, same, holds.crash⟩

theorem Keeping.step [DecidableEq User] (keeping : Keeping writer path log machine)
    (permanent : ¬writer.temporary.names path) {stranger : User} (other : stranger ≠ writer.user)
    {action : Action Byte Secret} (guarded : writer.Guarded path action) :
    Keeping writer path (log ++ (writer.completed path machine action).toList)
      (writer.step stranger machine action) := by
  have quiet : ∀ {machine' : Machine User Byte Secret}, Keeping writer path log machine' →
      Keeping writer path (log ++ (none : Option Secret).toList) machine' := by
    intro machine' keeping
    rwa [Option.toList_none, List.append_nil]
  cases action with
  | writeOwnerOnlyNew target secret => exact quiet (keeping.begin rfl fun _ => Bool.false_ne_true)
  | writeOwnerOnlyAtomic target secret =>
      exact quiet (keeping.begin rfl fun same => absurd same guarded)
  | advance index turn =>
      rw [completed, Writer.step]
      cases found : machine.jobs[index]? with
      | none => exact quiet keeping
      | some job =>
          exact keeping.advanced permanent guarded found
            (advance_cases writer machine.files job turn)
  | tightenToOwnerOnly target =>
      exact quiet (keeping.of_leaves (tightenToOwnerOnly_leaves writer machine target))
  | setPermissions index fails =>
      exact quiet (keeping.of_leaves (setPermissions_leaves writer machine index fails))
  | crash => exact quiet keeping.crash
  | tamper tampering => exact quiet (keeping.of_leaves (tamper_leaves other guarded))

end

end Writer

/-- While nobody else writes to its directory, one key at most is ever written completely under a
path.  Whoever checks and reads the file later reads that key, whatever is done between the two
calls, and does not find it open to others. -/
theorem keys_kept [DecidableEq User] (writer : Writer User Byte Secret) {path : String}
    (permanent : ¬writer.temporary.names path) {stranger : User} (other : stranger ≠ writer.user)
    (files : FileSystem User Byte) {front back : List (Action Byte Secret)}
    (guarded : ∀ action ∈ front ++ back, writer.Guarded path action) :
    (Execution.events (writer.completed path) (writer.step stranger) (.idle files)
        (front ++ back)).length ≤ 1 ∧
      ∀ secret ∈ Execution.events (writer.completed path) (writer.step stranger) (.idle files)
          front,
        ∀ what strict reason, readSecretFileWith
          (Execution.run (writer.step stranger) (.idle files) front).files
          (Execution.run (writer.step stranger) (.idle files) (front ++ back)).files path what
          strict reason = .ok (writer.holding secret) := by
  have preserved : ∀ (log : List Secret) (machine : Machine User Byte Secret)
      (action : Action Byte Secret), writer.Keeping path log machine →
        writer.Guarded path action →
          writer.Keeping path (log ++ (writer.completed path machine action).toList)
            (writer.step stranger machine action) :=
    fun _ _ _ keeping guarded => keeping.step permanent other guarded
  have keeping := fun actions (guarded : ∀ action ∈ actions, writer.Guarded path action) =>
    Execution.invariant_events preserved (Writer.keeping_idle writer path files)
      (Execution.along_of_forall_mem _ guarded)
  have early := keeping front fun action member => guarded action (List.mem_append_left _ member)
  have late := keeping (front ++ back) guarded
  constructor
  · obtain unwritten | ⟨secret, one, -⟩ := late.holds
    · simp [unwritten]
    · simp [one]
  · intro secret member what strict reason
    obtain unwritten | ⟨first, one, holds⟩ := early.holds
    · rw [unwritten] at member
      cases member
    · rw [one] at member
      cases List.mem_singleton.mp member
      have there := late.holds
      rw [Execution.events_append, one] at there
      obtain unwritten | ⟨last, same, holds'⟩ := there
      · exact absurd unwritten (by simp)
      · obtain ⟨rfl, -⟩ := List.cons.inj same
        have passes := (checkPermissions_eq_ok_iff _ path what strict).mpr fun _ => holds.read_eq.2
        rw [readSecretFileWith, passes, holds'.read_eq.1]
        rfl

private def keyWriter : Writer String Nat Nat where
  user := "gateway"
  temporary := ⟨ownerOnly, fun name => name = ".tmpA", by decide⟩
  holding key := [key, key]

/-- A first key is written in one part. -/
private def firstKey : List (Action Nat Nat) :=
  [.writeOwnerOnlyNew "vapid.pem" 1, .advance 0 (.succeeds ".tmpA" 0),
    .advance 0 (.succeeds ".tmpA" 2), .advance 0 .fails, .advance 0 (.succeeds ".tmpA" 0)]

/-- A second one finds the file there, and a guest tries to empty it. -/
private def secondKey : List (Action Nat Nat) :=
  [.writeOwnerOnlyNew "vapid.pem" 2, .tamper (.overwrite 0 []), .advance 1 (.succeeds ".tmpA" 0),
    .crash]

theorem keys_kept_second :
    ((Execution.events (keyWriter.completed "vapid.pem") (keyWriter.step "guest")
          (.idle ⟨fun _ => none, []⟩) (firstKey ++ secondKey)).length ≤ 1 ∧
        ∀ key ∈ Execution.events (keyWriter.completed "vapid.pem") (keyWriter.step "guest")
            (.idle ⟨fun _ => none, []⟩) firstKey,
          ∀ what strict reason, readSecretFileWith
            (Execution.run (keyWriter.step "guest") (.idle ⟨fun _ => none, []⟩) firstKey).files
            (Execution.run (keyWriter.step "guest") (.idle ⟨fun _ => none, []⟩)
              (firstKey ++ secondKey)).files
            "vapid.pem" what strict reason = .ok (keyWriter.holding key)) ∧
      Execution.events (keyWriter.completed "vapid.pem") (keyWriter.step "guest")
        (.idle ⟨fun _ => none, []⟩) firstKey = [1] :=
  have permanent : ¬keyWriter.temporary.names "vapid.pem" := by simp [keyWriter]
  ⟨keys_kept keyWriter permanent (by decide) _
    (by simp [firstKey, secondKey, Writer.Guarded, keyWriter]), by decide +kernel⟩

end PushGateway.Secretfile
