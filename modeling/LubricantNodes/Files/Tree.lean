import Mathlib.Data.List.Dedup
import Mathlib.Data.List.Infix

/-!
# File trees

A file tree is a finite map from paths to entries.  A path is the list of the
names that lead to it from the root; the trees below a directory are those whose
paths have the directory's path as a prefix.  An entry may be a symbolic link; it is
looked up like any other, and followed in `LubricantNodes.Files.Links`.

The operations are the effects of the usual system calls when they succeed; each
is characterised by what `lookup` answers afterwards.
-/

namespace LubricantNodes.Files

open List

variable {ν κ : Type}

/-! ## Paths -/

/-- Neither path leads through the other. -/
def Apart (first second : List ν) : Prop :=
  ¬first <+: second ∧ ¬second <+: first

instance [DecidableEq ν] (first second : List ν) : Decidable (Apart first second) :=
  inferInstanceAs (Decidable (_ ∧ _))

theorem Apart.symm {first second : List ν} (apart : Apart first second) : Apart second first :=
  ⟨apart.2, apart.1⟩

/-- Nothing lies below two paths that are apart. -/
theorem Apart.not_below {first second path : List ν} (apart : Apart first second)
    (below : first <+: path) : ¬second <+: path := by
  intro other
  rcases prefix_or_prefix_of_prefix below other with inside | inside
  · exact apart.1 inside
  · exact apart.2 inside

theorem Apart.mono {first second deeper further : List ν} (apart : Apart first second)
    (below : first <+: deeper) (under : second <+: further) : Apart deeper further := by
  constructor
  · intro inside
    exact apart.not_below (below.trans inside) under
  · intro inside
    exact apart.not_below below (under.trans inside)

/-- Paths that part at a name are apart. -/
theorem apart_of_ne {base : List ν} {name other : ν} (rest tail : List ν) (differ : name ≠ other) :
    Apart (base ++ name :: rest) (base ++ other :: tail) := by
  constructor <;> intro inside <;>
    rw [prefix_append_right_inj, cons_prefix_cons] at inside
  · exact differ inside.1
  · exact differ inside.1.symm

/-! ## Trees -/

/-- One step of a link's target. -/
inductive Move (ν : Type)
  | up
  | down (name : ν)
  deriving DecidableEq

/-- What is at a path. -/
inductive Entry (ν κ : Type)
  | dir
  | file (data : κ)
  /-- A symbolic link; the target is taken from the root or from the directory of the link. -/
  | link (absolute : Bool) (target : List (Move ν))
  deriving DecidableEq

/-- `IsDir`. -/
def Entry.isDir : Entry ν κ → Bool
  | .dir => true
  | _ => false

/-- The entry is a symbolic link. -/
def Entry.isLink : Entry ν κ → Bool
  | .link _ _ => true
  | _ => false

/-- A finite map from paths to entries; of several entries for one path the first
counts. -/
structure Tree (ν κ : Type) where
  entries : List (List ν × Entry ν κ)

namespace Tree

variable [DecidableEq ν] (tree : Tree ν κ)

/-- The entry at a path. -/
def lookup (path : List ν) : Option (Entry ν κ) :=
  tree.entries.lookup path

/-- Drop the entries of a set of paths. -/
def prune (drops : List ν → Bool) : Tree ν κ :=
  ⟨tree.entries.filter fun entry => !drops entry.1⟩

/-- Replace or drop one entry. -/
def set (path : List ν) : Option (Entry ν κ) → Tree ν κ
  | some entry => ⟨(path, entry) :: tree.entries⟩
  | none => tree.prune (· = path)

/-- Make a path that does not exist a directory. -/
def makeDir (path : List ν) : Tree ν κ :=
  if (tree.lookup path).isSome then tree else tree.set path (some .dir)

/-- Make those of the paths that do not exist directories. -/
def makeDirs (paths : List (List ν)) : Tree ν κ :=
  paths.foldl makeDir tree

/-- The effect of `mkdir -p`. -/
def mkdirs (path : List ν) : Tree ν κ :=
  tree.makeDirs path.inits

/-- The effect of `rm -r`. -/
def removeAll (path : List ν) : Tree ν κ :=
  tree.prune fun other => decide (path <+: other)

/-- The name of a path in a directory, if it is there. -/
def nameIn (dir path : List ν) : Option ν :=
  match path.drop dir.length with
  | [name] => if dir ++ [name] = path then some name else none
  | _ => none

/-- The names in a directory. -/
def names (dir : List ν) : List ν :=
  (tree.entries.filterMap fun entry => nameIn dir entry.1).dedup

/-- The path is a directory; the root always is. -/
def isDir (path : List ν) : Bool :=
  path = [] || ((tree.lookup path).map Entry.isDir).getD false

/-- Apply those changes of a list that are allowed. -/
def patch (allowed : Tree ν κ → List ν → Option (Entry ν κ) → Bool)
    (changes : List (List ν × Option (Entry ν κ))) : Tree ν κ :=
  changes.foldl
    (fun patched change =>
      if allowed patched change.1 change.2 then patched.set change.1 change.2 else patched) tree

/-! ## What `lookup` answers -/

variable {tree}

theorem lookup_prune (drops : List ν → Bool) (path : List ν) :
    (tree.prune drops).lookup path = if drops path then none else tree.lookup path := by
  obtain ⟨entries⟩ := tree
  simp only [lookup, prune]
  induction entries with
  | nil => simp
  | cons entry rest ih =>
    rcases entry with ⟨place, found⟩
    by_cases same : path = place
    · subst same
      by_cases dropped : drops path
      · rw [filter_cons_of_neg (by simp [dropped]), ih, if_pos dropped, if_pos dropped]
      · rw [filter_cons_of_pos (by simp [dropped])]
        simp [dropped]
    · have other : (path == place) = false := by simp [same]
      by_cases dropped : drops place
      · rw [filter_cons_of_neg (by simp [dropped]), ih, lookup_cons, other]
      · rw [filter_cons_of_pos (by simp [dropped]), lookup_cons, lookup_cons, other, ih]

@[simp]
theorem lookup_set (path other : List ν) (entry : Option (Entry ν κ)) :
    (tree.set path entry).lookup other = if other = path then entry else tree.lookup other := by
  cases entry with
  | none => simp [set, lookup_prune]
  | some found =>
    by_cases same : other = path
    · simp [set, lookup, same]
    · have differ : (other == path) = false := by simp [same]
      simp only [set, lookup, lookup_cons, differ, same, if_false]

theorem lookup_makeDir (path other : List ν) : (tree.makeDir path).lookup other =
      if other = path ∧ tree.lookup other = none then some .dir else tree.lookup other := by
  cases existing : tree.lookup path with
  | some entry =>
    have kept : tree.makeDir path = tree := by simp [makeDir, existing]
    rw [kept, if_neg]
    rintro ⟨rfl, absent⟩
    rw [existing] at absent
    cases absent
  | none =>
    have made : tree.makeDir path = tree.set path (some .dir) := by simp [makeDir, existing]
    rw [made, lookup_set]
    by_cases same : other = path
    · subst same
      simp [existing]
    · simp [same]

theorem lookup_makeDirs (paths : List (List ν)) (path : List ν) :
    (tree.makeDirs paths).lookup path =
      if path ∈ paths ∧ tree.lookup path = none then some .dir else tree.lookup path := by
  induction paths generalizing tree with
  | nil => simp [makeDirs]
  | cons first rest ih =>
    rw [makeDirs, foldl_cons, ← makeDirs, ih, lookup_makeDir]
    by_cases absent : tree.lookup path = none
    · by_cases same : path = first
      · subst same
        simp [absent]
      · simp [same, absent]
    · simp [absent]

theorem lookup_mkdirs (path other : List ν) : (tree.mkdirs path).lookup other =
      if other <+: path ∧ tree.lookup other = none then some .dir else tree.lookup other := by
  simp only [mkdirs, lookup_makeDirs, mem_inits]

@[simp]
theorem lookup_removeAll (path other : List ν) :
    (tree.removeAll path).lookup other = if path <+: other then none else tree.lookup other := by
  simp [removeAll, lookup_prune]

/-- A path where no change is allowed is left alone. -/
theorem lookup_patch_of_forbidden {allowed : Tree ν κ → List ν → Option (Entry ν κ) → Bool}
    (changes : List (List ν × Option (Entry ν κ))) {path : List ν}
    (forbidden : ∀ other entry, other.lookup path = tree.lookup path →
      allowed other path entry = false) :
    (tree.patch allowed changes).lookup path = tree.lookup path := by
  suffices kept : ∀ patched : Tree ν κ, patched.lookup path = tree.lookup path →
      (patched.patch allowed changes).lookup path = tree.lookup path from kept tree rfl
  induction changes with
  | nil =>
    intro patched same
    exact same
  | cons change rest ih =>
    intro patched same
    rw [patch, foldl_cons, ← patch]
    apply ih
    split_ifs with permitted
    · rw [lookup_set]
      split_ifs with here
      · subst here
        rw [forbidden patched change.2 same] at permitted
        cases permitted
      · exact same
    · exact same

end Tree

/-! ## Agreement -/

section Agreement

variable [DecidableEq ν]

/-- Two trees agree on a set of paths. -/
def Agree (on : List ν → Prop) (first second : Tree ν κ) : Prop :=
  ∀ path, on path → second.lookup path = first.lookup path

namespace Agree

variable {on narrower : List ν → Prop} {first second third : Tree ν κ}

@[refl]
theorem refl (tree : Tree ν κ) : Agree on tree tree := fun _ _ => rfl

theorem trans (agree : Agree on first second) (further : Agree on second third) :
    Agree on first third :=
  fun path here => (further path here).trans (agree path here)

end Agree

end Agreement

end LubricantNodes.Files
