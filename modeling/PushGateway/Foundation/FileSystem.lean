import Mathlib.Data.List.Forall2
import Mathlib.Logic.Function.Basic
import PushGateway.Foundation.Execution

/-!
# Files of several users

A directory of names, each of a file or a link, and the files with their owners, modes and contents.
A stranger may do anything to the names, and to the files which are its own or open to others; what
it sees of the files is what it may open.
-/

/-- A file: its owner, its permission bits and what it holds. -/
structure Inode (User Byte : Type) where
  owner : User
  mode : Nat
  content : List Byte

/-- What a name stands for. -/
inductive Entry where
  | file (inode : Nat)
  | link (target : String)
  deriving DecidableEq, Repr

/-- The names of a directory, and all files, in the order of their creation. -/
structure FileSystem (User Byte : Type) where
  entries : String → Option Entry
  inodes : List (Inode User Byte)

/-- A mode which grants any access beyond the owner. -/
def IsLoose (mode : Nat) : Prop := mode &&& 0o077 ≠ 0

instance (mode : Nat) : Decidable (IsLoose mode) := inferInstanceAs (Decidable (_ ≠ _))

namespace FileSystem

variable {User Byte : Type}

/-! ## Calls -/

/-- The file a name leads to, through so many links at most. -/
def resolve (files : FileSystem User Byte) : Nat → String → Option Nat
  | 0, name =>
      match files.entries name with
      | some (.file inode) => some inode
      | some (.link _) | none => none
  | links + 1, name =>
      match files.entries name with
      | some (.file inode) => some inode
      | some (.link target) => files.resolve links target
      | none => none

/-- The number of links which are followed. -/
def maxLinks : Nat := 40

/-- Create a file under a name which nothing has yet, not even a link. -/
def createNew (files : FileSystem User Byte) (user : User) (mode : Nat) (name : String) :
    Option (Nat × FileSystem User Byte) :=
  match files.entries name with
  | some _ => none
  | none => some (files.inodes.length,
      ⟨Function.update files.entries name (some (.file files.inodes.length)),
        files.inodes ++ [⟨user, mode, []⟩]⟩)

/-- Write to the end of an open file. -/
def append (files : FileSystem User Byte) (inode : Nat) (bytes : List Byte) :
    FileSystem User Byte :=
  { files with
    inodes := files.inodes.modify inode fun file => { file with content := file.content ++ bytes } }

/-- Remove a name. -/
def unlink (files : FileSystem User Byte) (name : String) : FileSystem User Byte :=
  { files with entries := Function.update files.entries name none }

/-- Give what a name stands for another name, in the place of what that one stood for. -/
def rename (files : FileSystem User Byte) (source target : String) :
    Option (FileSystem User Byte) :=
  (files.entries source).map fun entry =>
    { files with
      entries := Function.update (Function.update files.entries source none) target (some entry) }

/-- The mode of the file a name leads to. -/
def modeOf (files : FileSystem User Byte) (name : String) : Option Nat :=
  (files.resolve maxLinks name).bind fun inode => files.inodes[inode]?.map Inode.mode

/-- What the file a name leads to holds. -/
def read (files : FileSystem User Byte) (name : String) : Option (List Byte) :=
  (files.resolve maxLinks name).bind fun inode => files.inodes[inode]?.map Inode.content

/-- Set the mode of the file a name leads to; only its owner may. -/
def chmod [DecidableEq User] (files : FileSystem User Byte) (user : User) (mode : Nat)
    (name : String) : FileSystem User Byte :=
  match files.resolve maxLinks name with
  | none => files
  | some inode =>
      { files with
        inodes := files.inodes.modify inode fun file =>
          if file.owner = user then { file with mode := mode } else file }

theorem chmod_entries [DecidableEq User] (files : FileSystem User Byte) (user : User) (mode : Nat)
    (name : String) : (files.chmod user mode name).entries = files.entries := by
  rw [chmod]
  split
  · rfl
  · rfl

/-! ## A stranger -/

/-- The user may open the file. -/
def Opens (user : User) (file : Inode User Byte) : Prop := file.owner = user ∨ IsLoose file.mode

instance [DecidableEq User] (user : User) (file : Inode User Byte) : Decidable (Opens user file) :=
  inferInstanceAs (Decidable (_ ∨ _))

/-- What a stranger may do. -/
inductive Tampering (Byte : Type) where
  /-- Names are given and taken at will. -/
  | arrange (entries : String → Option Entry)
  | create (mode : Nat) (content : List Byte)
  | overwrite (inode : Nat) (content : List Byte)
  | chmod (inode : Nat) (mode : Nat)

def tamper [DecidableEq User] (files : FileSystem User Byte) (stranger : User) :
    Tampering Byte → FileSystem User Byte
  | .arrange entries => { files with entries := entries }
  | .create mode content =>
      { files with inodes := files.inodes ++ [⟨stranger, mode, content⟩] }
  | .overwrite inode content =>
      { files with
        inodes := files.inodes.modify inode fun file =>
          if Opens stranger file then { file with content := content } else file }
  | .chmod inode mode =>
      { files with
        inodes := files.inodes.modify inode fun file =>
          if file.owner = stranger then { file with mode := mode } else file }

/-- What a user sees of a file: its owner, mode and size, and what it holds if the user may open
it. -/
def shown [DecidableEq User] (user : User) (file : Inode User Byte) :
    User × Nat × Nat × Option (List Byte) :=
  (file.owner, file.mode, file.content.length,
    if Opens user file then some file.content else none)

def view [DecidableEq User] (files : FileSystem User Byte) (user : User) :
    (String → Option Entry) × List (User × Nat × Nat × Option (List Byte)) :=
  (files.entries, files.inodes.map (shown user))

/-! ## Files kept to oneself -/

/-- The file is the owner's, closed to all others, and holds the content. -/
def Kept (files : FileSystem User Byte) (owner : User) (inode : Nat) (content : List Byte) : Prop :=
  ∃ mode, ¬IsLoose mode ∧ files.inodes[inode]? = some ⟨owner, mode, content⟩

section

variable {owner stranger user : User} {files : FileSystem User Byte} {inode : Nat}
  {content : List Byte}

theorem Kept.lt (kept : files.Kept owner inode content) : inode < files.inodes.length := by
  obtain ⟨_, _, found⟩ := kept
  exact (List.getElem?_eq_some_iff.mp found).1

theorem Kept.append (kept : files.Kept owner inode content) (bytes : List Byte) :
    (files.append inode bytes).Kept owner inode (content ++ bytes) := by
  obtain ⟨mode, tight, found⟩ := kept
  exact ⟨mode, tight, by simp [FileSystem.append, found]⟩

theorem Kept.append_other (kept : files.Kept owner inode content) {other : Nat}
    (apart : other ≠ inode) (bytes : List Byte) :
    (files.append other bytes).Kept owner inode content := by
  obtain ⟨mode, tight, found⟩ := kept
  exact ⟨mode, tight, by simp [FileSystem.append, found, apart]⟩

/-- A new file is a further one, and the name leads to it. -/
theorem createNew_cases {mode fresh : Nat} {name : String} {after : FileSystem User Byte}
    (created : files.createNew user mode name = some (fresh, after)) :
    files.entries name = none ∧ fresh = files.inodes.length ∧
      after.entries = Function.update files.entries name (some (.file fresh)) ∧
        after.inodes = files.inodes ++ [⟨user, mode, []⟩] := by
  rw [createNew] at created
  split at created
  · cases created
  · rename_i free
    obtain ⟨rfl, rfl⟩ := Prod.mk.inj (Option.some.inj created)
    exact ⟨free, rfl, rfl, rfl⟩

theorem Kept.concat (kept : files.Kept owner inode content) {after : FileSystem User Byte}
    {file : Inode User Byte} (longer : after.inodes = files.inodes ++ [file]) :
    after.Kept owner inode content := by
  have below := kept.lt
  obtain ⟨mode, tight, found⟩ := kept
  exact ⟨mode, tight, by rw [longer, List.getElem?_append_left below, found]⟩

theorem kept_created {mode fresh : Nat} {name : String} {after : FileSystem User Byte}
    (created : files.createNew user mode name = some (fresh, after)) (tight : ¬IsLoose mode) :
    after.Kept user fresh [] := by
  obtain ⟨-, rfl, -, longer⟩ := createNew_cases created
  exact ⟨mode, tight, by simp [longer]⟩

/-- A change keeps the file which it maps to one kept as well. -/
theorem Kept.modify (kept : files.Kept owner inode content) (index : Nat)
    {change : Inode User Byte → Inode User Byte}
    (keeps : ∀ mode, ¬IsLoose mode → ∃ mode', ¬IsLoose mode' ∧
      change ⟨owner, mode, content⟩ = ⟨owner, mode', content⟩) :
    Kept { files with inodes := files.inodes.modify index change } owner inode content := by
  obtain ⟨mode, tight, found⟩ := kept
  by_cases here : index = inode
  · obtain ⟨mode', tight', changed⟩ := keeps mode tight
    exact ⟨mode', tight', by simp [found, here, changed]⟩
  · exact ⟨mode, tight, by simp [found, here]⟩

/-- No stranger gets at a file which its owner keeps to itself. -/
theorem Kept.tamper [DecidableEq User] (kept : files.Kept owner inode content)
    (other : stranger ≠ owner) (tampering : Tampering Byte) :
    (files.tamper stranger tampering).Kept owner inode content := by
  cases tampering with
  | arrange entries => exact kept
  | create mode content => exact kept.concat rfl
  | overwrite file bytes =>
      refine kept.modify file fun mode tight => ⟨mode, tight, if_neg ?_⟩
      rintro (own | loose)
      · exact other own.symm
      · exact tight loose
  | chmod file bits =>
      exact kept.modify file fun mode tight => ⟨mode, tight, if_neg (Ne.symm other)⟩

theorem Kept.chmod [DecidableEq User] (kept : files.Kept owner inode content) {mode : Nat}
    (tight : ¬IsLoose mode) (name : String) :
    (files.chmod owner mode name).Kept owner inode content := by
  rw [FileSystem.chmod]
  cases files.resolve maxLinks name with
  | none => exact kept
  | some target => exact kept.modify target fun _ _ => ⟨mode, tight, if_pos rfl⟩

end

/-! ## Two systems which look alike -/

/-- The two files differ in nothing but what an owner keeps to itself. -/
def Alike (owner : User) (left right : Inode User Byte) : Prop :=
  left.owner = right.owner ∧ left.mode = right.mode ∧
    left.content.length = right.content.length ∧
    (left.content ≠ right.content → left.owner = owner ∧ ¬IsLoose left.mode)

/-- The two systems differ in nothing but the contents an owner keeps to itself. -/
structure Indistinct (owner : User) (left right : FileSystem User Byte) : Prop where
  entries : left.entries = right.entries
  inodes : List.Forall₂ (Alike owner) left.inodes right.inodes

section

variable {owner stranger : User} {left right : FileSystem User Byte}

theorem alike_refl (file : Inode User Byte) : Alike owner file file :=
  ⟨rfl, rfl, rfl, fun different => absurd rfl different⟩

/-- A stranger opens alike files alike, and reads the same in them. -/
theorem Alike.opens {file file' : Inode User Byte} (alike : Alike owner file file')
    (other : stranger ≠ owner) :
    (Opens stranger file ↔ Opens stranger file') ∧
      (Opens stranger file → file.content = file'.content) := by
  obtain ⟨owners, modes, -, kept⟩ := alike
  refine ⟨by rw [Opens, Opens, owners, modes], fun opens => ?_⟩
  by_contra different
  obtain ⟨owned, tight⟩ := kept different
  obtain own | loose := opens
  · exact other (own.symm.trans owned)
  · exact tight loose

/-- Alike changes to the files at an index keep the lists alike. -/
theorem forall₂_modify {files files' : List (Inode User Byte)}
    (alike : List.Forall₂ (Alike owner) files files') (index : Nat)
    {change change' : Inode User Byte → Inode User Byte}
    (changes : ∀ file file', files[index]? = some file → Alike owner file file' →
      Alike owner (change file) (change' file')) :
    List.Forall₂ (Alike owner) (files.modify index change) (files'.modify index change') := by
  induction alike generalizing index with
  | nil => simp
  | cons first rest induction =>
      cases index with
      | zero => exact .cons (changes _ _ rfl first) rest
      | succ index => exact .cons first (induction index changes)

theorem map_mode_eq {files files' : List (Inode User Byte)}
    (alike : List.Forall₂ (Alike owner) files files') :
    files.map Inode.mode = files'.map Inode.mode := by
  induction alike with
  | nil => rfl
  | cons first rest induction => rw [List.map_cons, List.map_cons, first.2.1, induction]

theorem Alike.shown_eq [DecidableEq User] {file file' : Inode User Byte}
    (alike : Alike owner file file') (other : stranger ≠ owner) :
    shown stranger file = shown stranger file' := by
  obtain ⟨opens, reads⟩ := alike.opens other
  rw [shown, shown, alike.1, alike.2.1, alike.2.2.1]
  by_cases opened : Opens stranger file
  · rw [if_pos opened, if_pos (opens.mp opened), reads opened]
  · rw [if_neg opened, if_neg (opens.not.mp opened)]

theorem map_shown_eq [DecidableEq User] {files files' : List (Inode User Byte)}
    (alike : List.Forall₂ (Alike owner) files files') (other : stranger ≠ owner) :
    files.map (shown stranger) = files'.map (shown stranger) := by
  induction alike with
  | nil => rfl
  | cons first rest induction =>
      rw [List.map_cons, List.map_cons, first.shown_eq other, induction]

namespace Indistinct

theorem resolve_eq (indistinct : Indistinct owner left right) (links : Nat) (name : String) :
    left.resolve links name = right.resolve links name := by
  induction links generalizing name with
  | zero => rw [resolve, resolve, indistinct.entries]
  | succ links induction =>
      rw [resolve, resolve, indistinct.entries]
      cases right.entries name with
      | none => rfl
      | some entry =>
          cases entry with
          | file inode => rfl
          | link target => exact induction target

theorem modeOf_eq (indistinct : Indistinct owner left right) (name : String) :
    left.modeOf name = right.modeOf name := by
  simp only [modeOf, indistinct.resolve_eq, ← List.getElem?_map, map_mode_eq indistinct.inodes]

/-- A stranger sees no difference. -/
theorem view_eq [DecidableEq User] (indistinct : Indistinct owner left right)
    (other : stranger ≠ owner) : left.view stranger = right.view stranger :=
  Prod.ext indistinct.entries (map_shown_eq indistinct.inodes other)

/-- A stranger who does not see the difference does not bring it out. -/
theorem tamper [DecidableEq User] (indistinct : Indistinct owner left right)
    (other : stranger ≠ owner) (tampering : Tampering Byte) :
    Indistinct owner (left.tamper stranger tampering) (right.tamper stranger tampering) := by
  obtain ⟨entries, inodes⟩ := indistinct
  cases tampering with
  | arrange names => exact ⟨rfl, inodes⟩
  | create mode content => exact ⟨entries, List.rel_append inodes (.cons (alike_refl _) .nil)⟩
  | overwrite inode content =>
      refine ⟨entries, forall₂_modify inodes inode fun file file' _ alike => ?_⟩
      by_cases opened : Opens stranger file
      · rw [if_pos opened, if_pos ((alike.opens other).1.mp opened)]
        exact ⟨alike.1, alike.2.1, rfl, fun different => absurd rfl different⟩
      · rw [if_neg opened, if_neg ((alike.opens other).1.not.mp opened)]
        exact alike
  | chmod inode mode =>
      refine ⟨entries, forall₂_modify inodes inode fun file file' _ alike => ?_⟩
      by_cases owned : file.owner = stranger
      · rw [if_pos owned, if_pos (alike.1.symm.trans owned)]
        refine ⟨alike.1, rfl, alike.2.2.1, fun different => ?_⟩
        exact absurd (owned.symm.trans (alike.2.2.2 different).1) other
      · rw [if_neg owned, if_neg (alike.1 ▸ owned)]
        exact alike

/-- The owner may create a file in both systems, and gets the same one. -/
theorem createNew (indistinct : Indistinct owner left right) (user : User) (mode : Nat)
    (name : String) :
    (left.createNew user mode name = none ∧ right.createNew user mode name = none) ∨
      ∃ inode after after', left.createNew user mode name = some (inode, after) ∧
        right.createNew user mode name = some (inode, after') ∧
          Indistinct owner after after' := by
  obtain ⟨entries, inodes⟩ := indistinct
  rw [FileSystem.createNew, FileSystem.createNew, ← entries, ← inodes.length_eq]
  cases left.entries name with
  | some entry => exact .inl ⟨rfl, rfl⟩
  | none =>
      exact .inr ⟨_, _, _, rfl, rfl, rfl, List.rel_append inodes (.cons (alike_refl _) .nil)⟩

/-- The owner may write as many bytes in both systems to a file which it keeps to itself. -/
theorem append (indistinct : Indistinct owner left right) {inode : Nat} {content : List Byte}
    (kept : left.Kept owner inode content) {bytes bytes' : List Byte}
    (sizes : bytes.length = bytes'.length) :
    Indistinct owner (left.append inode bytes) (right.append inode bytes') := by
  refine ⟨indistinct.entries, forall₂_modify indistinct.inodes inode
    fun file file' found alike => ?_⟩
  obtain ⟨mode, tight, here⟩ := kept
  obtain rfl : file = ⟨owner, mode, content⟩ := Option.some.inj (found.symm.trans here)
  refine ⟨alike.1, alike.2.1, ?_, fun _ => ⟨rfl, tight⟩⟩
  rw [List.length_append, List.length_append, sizes, alike.2.2.1]

theorem unlink (indistinct : Indistinct owner left right) (name : String) :
    Indistinct owner (left.unlink name) (right.unlink name) :=
  ⟨by rw [FileSystem.unlink, FileSystem.unlink, indistinct.entries], indistinct.inodes⟩

theorem rename (indistinct : Indistinct owner left right) (source target : String) :
    (left.rename source target = none ∧ right.rename source target = none) ∨
      ∃ after after', left.rename source target = some after ∧
        right.rename source target = some after' ∧ Indistinct owner after after' := by
  obtain ⟨entries, inodes⟩ := indistinct
  rw [FileSystem.rename, FileSystem.rename, ← entries]
  cases left.entries source with
  | none => exact .inl ⟨rfl, rfl⟩
  | some entry => exact .inr ⟨_, _, rfl, rfl, rfl, inodes⟩

/-- The owner may make a file its own again. -/
theorem chmod [DecidableEq User] (indistinct : Indistinct owner left right) {mode : Nat}
    (tight : ¬IsLoose mode) (name : String) :
    Indistinct owner (left.chmod owner mode name) (right.chmod owner mode name) := by
  rw [FileSystem.chmod, FileSystem.chmod, indistinct.resolve_eq]
  cases right.resolve maxLinks name with
  | none => exact indistinct
  | some inode =>
      refine ⟨indistinct.entries, forall₂_modify indistinct.inodes inode
        fun file file' _ alike => ?_⟩
      by_cases owned : file.owner = owner
      · rw [if_pos owned, if_pos (alike.1.symm.trans owned)]
        exact ⟨alike.1, rfl, alike.2.2.1, fun _ => ⟨owned, tight⟩⟩
      · rw [if_neg owned, if_neg (alike.1 ▸ owned)]
        exact alike

end Indistinct

end

end FileSystem
