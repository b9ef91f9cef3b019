import Mathlib.Logic.Function.Basic
import Mathlib.Tactic.SplitIfs

/-!
# Files behind directory entries

A file system in which open files, hard links and the removal of open files can
be told apart: a directory entry names a file by its number, and the content
belongs to the number.  Entries are at locations in `ρ`, so that several texts
may lead to one entry; contents are lists over `β`.
-/

namespace LubricantNodes.Files

open Function

/-- What a directory entry refers to. -/
inductive Dirent
  | file (inode : Nat)
  | directory
  deriving DecidableEq

/-- Directory entries and contents.  Numbers from `next` on are not in use. -/
structure Inodes (ρ β : Type) where
  entries : ρ → Option Dirent
  contents : Nat → List β
  next : Nat
  bounded : ∀ {location inode}, entries location = some (.file inode) → inode < next

namespace Inodes

variable {ρ β : Type}

/-- No entries. -/
def empty : Inodes ρ β where
  entries _ := none
  contents _ := []
  next := 0
  bounded found := nomatch found

section Operations

variable (disk : Inodes ρ β)

/-- The same entries with another content of a file. -/
def setContent (inode : Nat) (content : List β) : Inodes ρ β :=
  { disk with contents := Function.update disk.contents inode content }

/-- `write` at a position of an open file; a gap is filled with `zero`. -/
def write (zero : β) (inode position : Nat) (data : List β) : Inodes ρ β :=
  let content := disk.contents inode
  disk.setContent inode
    (content.take position ++ List.replicate (position - content.length) zero ++ data ++
      content.drop (position + data.length))

/-- The content of the file at a location. -/
def read (location : ρ) : Option (List β) :=
  match disk.entries location with
  | some (.file inode) => some (disk.contents inode)
  | _ => none

variable [DecidableEq ρ]

/-- An entry for a file that is in use. -/
def link (location : ρ) (inode : Nat) (used : inode < disk.next) : Inodes ρ β :=
  { disk with
    entries := Function.update disk.entries location (some (.file inode))
    bounded := by
      intro other number found
      by_cases same : other = location
      · subst same
        rw [Function.update_self] at found
        cases found
        exact used
      · rw [Function.update_of_ne same] at found
        exact disk.bounded found }

/-- No entry at a location. -/
def unlink (location : ρ) : Inodes ρ β :=
  { disk with
    entries := Function.update disk.entries location none
    bounded := by
      intro other number found
      by_cases same : other = location
      · subst same
        rw [Function.update_self] at found
        cases found
      · rw [Function.update_of_ne same] at found
        exact disk.bounded found }

/-- A number that was not in use, for an empty file without an entry. -/
def create : Inodes ρ β :=
  { disk with
    contents := Function.update disk.contents disk.next []
    next := disk.next + 1
    bounded := fun found => Nat.lt_succ_of_lt (disk.bounded found) }

/-- `open` with `O_CREATE` and `O_TRUNC`, and the number of the open file. -/
def openTrunc (location : ρ) : Option (Inodes ρ β × Nat) :=
  match disk.entries location with
  | some .directory => none
  | some (.file inode) => some (disk.setContent inode [], inode)
  | none => some (disk.create.link location disk.next (Nat.lt_succ_self _), disk.next)

/-- `unlink` of a file. -/
def remove (location : ρ) : Option (Inodes ρ β) :=
  match disk.entries location with
  | some (.file _) => some (disk.unlink location)
  | _ => none

/-- `rename` of a file; it does nothing when both entries name the same file. -/
def rename (source target : ρ) : Option (Inodes ρ β) :=
  match present : disk.entries source with
  | some (.file inode) =>
    if disk.entries target = some .directory then none
    else if disk.entries target = some (.file inode) then some disk
    else some ((disk.unlink source).link target inode (disk.bounded present))
  | _ => none

end Operations

variable {disk next : Inodes ρ β} {location source target other : ρ} {inode number : Nat}

/-! ## Contents -/

@[simp]
theorem contents_setContent (content : List β) :
    (disk.setContent inode content).contents inode = content :=
  update_self ..

theorem contents_setContent_of_ne (different : number ≠ inode) (content : List β) :
    (disk.setContent inode content).contents number = disk.contents number :=
  update_of_ne different ..

/-- A write at the end of the file appends. -/
theorem contents_write (zero : β) (data : List β) :
    (disk.write zero inode (disk.contents inode).length data).contents inode =
      disk.contents inode ++ data := by
  simp [write]

theorem contents_write_of_ne (different : number ≠ inode) (zero : β) (position : Nat)
    (data : List β) :
    (disk.write zero inode position data).contents number = disk.contents number :=
  contents_setContent_of_ne different _

theorem read_of_file (present : disk.entries location = some (.file inode)) :
    disk.read location = some (disk.contents inode) := by
  simp [read, present]

variable [DecidableEq ρ]

theorem entries_link (used : inode < disk.next) :
    (disk.link location inode used).entries location = some (.file inode) :=
  update_self ..

theorem entries_link_of_ne (used : inode < disk.next) (different : other ≠ location) :
    (disk.link location inode used).entries other = disk.entries other :=
  update_of_ne different ..

theorem entries_unlink : (disk.unlink location).entries location = none := update_self ..

theorem entries_unlink_of_ne (different : other ≠ location) :
    (disk.unlink location).entries other = disk.entries other :=
  update_of_ne different ..

/-! ## Opening -/

section Opened

variable (opened : disk.openTrunc location = some (next, inode))

include opened

/-- The file that is opened: the one that was there, or a new one. -/
theorem openTrunc_fresh : disk.entries location = some (.file inode) ∨
      disk.entries location = none ∧ inode = disk.next := by
  unfold openTrunc at opened
  split at opened
  · cases opened
  · rename_i present
    cases opened
    exact .inl present
  · rename_i absent
    cases opened
    exact .inr ⟨absent, rfl⟩

theorem entries_openTrunc : next.entries location = some (.file inode) := by
  unfold openTrunc at opened
  split at opened
  · cases opened
  · rename_i present
    cases opened
    exact present
  · cases opened
    exact update_self ..

theorem entries_openTrunc_of_ne
    (different : other ≠ location) : next.entries other = disk.entries other := by
  unfold openTrunc at opened
  split at opened <;> cases opened
  · rfl
  · exact update_of_ne different ..

theorem contents_openTrunc : next.contents inode = [] := by
  unfold openTrunc at opened
  split at opened <;> cases opened
  · exact update_self ..
  · exact update_self ..

theorem contents_openTrunc_of_ne
    (different : number ≠ inode) : next.contents number = disk.contents number := by
  unfold openTrunc at opened
  split at opened <;> cases opened
  · exact update_of_ne different ..
  · exact update_of_ne different ..

end Opened

/-! ## Removing and renaming -/

theorem entries_remove_of_ne (removed : disk.remove location = some next)
    (different : other ≠ location) : next.entries other = disk.entries other := by
  unfold remove at removed
  split at removed <;> cases removed
  exact update_of_ne different ..

theorem contents_remove (removed : disk.remove location = some next) :
    next.contents = disk.contents := by
  unfold remove at removed
  split at removed <;> cases removed
  rfl

section Renamed

variable (renamed : disk.rename source target = some next)

include renamed

theorem contents_rename : next.contents = disk.contents := by
  unfold rename at renamed
  split at renamed
  · split_ifs at renamed <;> cases renamed
    · rfl
    · rfl
  · cases renamed

/-- After a rename the target is the file that was at the source. -/
theorem entries_rename (present : disk.entries source = some (.file inode)) :
    next.entries target = some (.file inode) := by
  unfold rename at renamed
  split at renamed
  · rename_i found
    rw [present] at found
    cases found
    split_ifs at renamed with directory same <;> cases renamed
    · exact same
    · exact update_self ..
  · cases renamed

theorem entries_rename_of_ne (notSource : other ≠ source) (notTarget : other ≠ target) :
    next.entries other = disk.entries other := by
  unfold rename at renamed
  split at renamed
  · split_ifs at renamed <;> cases renamed
    · rfl
    · exact (update_of_ne notTarget ..).trans (update_of_ne notSource ..)
  · cases renamed

/-- A file that has an entry after a rename had one there or at the source. -/
theorem entries_of_rename (present : next.entries location = some (.file inode)) :
    disk.entries location = some (.file inode) ∨ disk.entries source = some (.file inode) := by
  unfold rename at renamed
  split at renamed
  · rename_i number found
    split_ifs at renamed
    · cases renamed
      exact .inl present
    cases renamed
    by_cases atTarget : location = target
    · subst atTarget
      have linked := (@entries_link _ _ (disk.unlink source) location number _ _).symm.trans present
      exact .inr (found.trans linked)
    have present := (@entries_link_of_ne _ _ (disk.unlink source) target location number _ _
      atTarget).symm.trans present
    by_cases atSource : location = source
    · subst atSource
      rw [entries_unlink] at present
      cases present
    · rw [entries_unlink_of_ne atSource] at present
      exact .inl present
  · cases renamed

end Renamed

theorem entries_of_remove (removed : disk.remove location = some next)
    (present : next.entries other = some (.file inode)) :
    disk.entries other = some (.file inode) := by
  by_cases same : other = location
  · subst same
    unfold remove at removed
    split at removed <;> cases removed
    rw [entries_unlink] at present
    cases present
  · rw [← entries_remove_of_ne removed same]
    exact present

/-- A file that has an entry after an opening had one there, or is the one that was
opened. -/
theorem entries_of_openTrunc (opened : disk.openTrunc location = some (next, number))
    (present : next.entries other = some (.file inode)) :
    disk.entries other = some (.file inode) ∨ inode = number := by
  by_cases same : other = location
  · subst same
    rw [entries_openTrunc opened] at present
    cases present
    exact .inr rfl
  · rw [entries_openTrunc_of_ne opened same] at present
    exact .inl present

end Inodes

end LubricantNodes.Files
