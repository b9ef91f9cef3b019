import Mathlib.Tactic.SplitIfs
import LubricantNodes.Files.Tree

/-!
# Paths through symbolic links

A path is walked name by name from the root; a link on the way is replaced by its
target, which may lead up and out of any directory.  Every call acts at the place
that the walk ends in, so a call is confined when its walk is.

A path is *direct* when no link lies on it.  The walk of a direct path ends at
the path itself, and that is what confines calls on direct paths.
-/

namespace LubricantNodes.Files

open List Option

variable {ν κ : Type}

namespace Tree

variable [DecidableEq ν] (tree : Tree ν κ)

/-! ## Walking -/

/-- Walk on from `base`.  A link on the way is handed to `jump` together with the rest of
the way, and one at the end only when `follow` is set.  What does not exist is walked
through; there is no way up from what is not a directory. -/
def advance (follow : Bool) (jump : List ν → List (Move ν) → Option (List ν)) :
    List ν → List (Move ν) → Option (List ν)
  | base, [] => some base
  | base, .up :: rest =>
    if tree.isDir base then advance follow jump base.dropLast rest else none
  | base, .down name :: rest =>
    match tree.lookup (base ++ [name]) with
    | some (.link absolute target) =>
      if rest = [] ∧ follow = false then some (base ++ [name])
      else jump (if absolute then [] else base) (target ++ rest)
    | _ => advance follow jump (base ++ [name]) rest

/-- The place that a walk ends in; it fails after `limit` links. -/
def walk (follow : Bool) : Nat → List ν → List (Move ν) → Option (List ν)
  | 0 => tree.advance follow fun _ _ => none
  | limit + 1 => tree.advance follow (walk follow limit)

/-- The place that a path leads to. -/
def locate (follow : Bool) (limit : Nat) (path : List ν) : Option (List ν) :=
  tree.walk follow limit [] (path.map .down)

/-- There is no link at the place. -/
def Plain (place : List ν) : Prop :=
  ∀ entry ∈ tree.lookup place, entry.isLink = false
  deriving Decidable

/-- No link lies on the path; the last name may be one unless `whole` is set. -/
def Direct (whole : Bool) (path : List ν) : Prop :=
  ∀ middle ∈ path.inits, middle ≠ [] → (whole = false → middle ≠ path) → tree.Plain middle
  deriving Decidable

variable {tree} {follow whole : Bool} {limit : Nat} {path : List ν}

/-- A walk that meets no link ends where its names lead. -/
theorem advance_of_plain {jump : List ν → List (Move ν) → Option (List ν)} {base names : List ν}
    (plain : ∀ middle, middle ≠ [] → middle <+: names → (follow = false → middle ≠ names) →
      tree.Plain (base ++ middle)) :
    tree.advance follow jump base (names.map .down) = some (base ++ names) := by
  induction names generalizing base with
  | nil => rw [map_nil, advance, append_nil]
  | cons name rest ih =>
    have deeper : ∀ middle, middle ≠ [] → middle <+: rest →
        (follow = false → middle ≠ rest) → tree.Plain ((base ++ [name]) ++ middle) := by
      intro middle nonempty inside proper
      rw [append_assoc, singleton_append]
      apply plain (name :: middle) (cons_ne_nil _ _)
      · exact (prefix_cons_inj name).mpr inside
      · intro unfollowed same
        exact proper unfollowed (cons.inj same).2
    rw [map_cons, advance]
    split
    · rename_i absolute target linked
      by_cases last : rest.map Move.down = [] ∧ follow = false
      · rw [if_pos last, map_eq_nil_iff.mp last.1]
      -- A link that is followed is not plain.
      have clear : tree.Plain (base ++ [name]) := by
        apply plain [name] (cons_ne_nil _ _)
        · exact prefix_append [name] rest
        · intro unfollowed same
          apply last
          rw [← (cons.inj same).2]
          exact ⟨rfl, unfollowed⟩
      cases clear _ linked
    · rw [ih deeper, append_assoc, singleton_append]

/-- A direct path leads to itself. -/
theorem locate_of_direct (direct : tree.Direct follow path) :
    tree.locate follow limit path = some path := by
  have plain : ∀ middle, middle ≠ [] → middle <+: path → (follow = false → middle ≠ path) →
      tree.Plain ([] ++ middle) :=
    fun middle nonempty inside => direct middle ((mem_inits ..).mpr inside) nonempty
  unfold locate
  cases limit <;> exact advance_of_plain plain

/-- The directories of a direct path have direct paths. -/
theorem Direct.parent {middle : List ν} (direct : tree.Direct whole path)
    (inside : middle <+: path) (proper : whole = false → middle ≠ path) :
    tree.Direct true middle := by
  intro part member nonempty _
  have within := (mem_inits ..).mp member
  apply direct part ((mem_inits ..).mpr (within.trans inside)) nonempty
  intro last same
  subst same
  exact proper last (inside.eq_of_length_le within.length_le)

theorem Direct.of_whole (direct : tree.Direct true path) : tree.Direct whole path :=
  fun part member nonempty _ => direct part member nonempty (fun impossible => by cases impossible)

/-! ## What is in the way -/

/-- How many links the system follows on one path. -/
def maxLinks : Nat := 40

variable (tree) in
/-- Something on the way to the path, or at it, exists and does not lead to a directory. -/
def blocked (path : List ν) : Bool :=
  path.inits.any fun ancestor =>
    match tree.locate false maxLinks ancestor with
    | none => true
    | some place =>
      (tree.lookup place).isSome && !(tree.locate true maxLinks ancestor).any tree.isDir

/-- Where there are directories only, no link is in the way. -/
theorem direct_of_dirs (dirs : ∀ ancestor, ancestor <+: path →
      tree.lookup ancestor = none ∨ tree.lookup ancestor = some .dir) : tree.Direct whole path := by
  intro middle member _ _ entry found
  rcases dirs middle ((mem_inits ..).mp member) with absent | dir
  · rw [absent] at found
    cases found
  · rw [dir] at found
    cases found
    rfl

/-- Where there are directories only, nothing is in the way. -/
theorem blocked_eq_false (dirs : ∀ ancestor, ancestor <+: path →
      tree.lookup ancestor = none ∨ tree.lookup ancestor = some .dir) :
    tree.blocked path = false := by
  simp only [blocked, List.any_eq_false, mem_inits]
  intro ancestor above
  have direct (whole : Bool) : tree.Direct whole ancestor :=
    direct_of_dirs fun further inside => dirs further (inside.trans above)
  rw [locate_of_direct (direct false), locate_of_direct (direct true)]
  rcases dirs ancestor above with absent | dir
  · simp [absent]
  · simp [isDir, dir, Entry.isDir]

/-! ## Calls -/

/-- Nothing is below the place. -/
def isBare (tree : Tree ν κ) (place : List ν) : Bool :=
  tree.entries.all fun entry => !(decide (place <+: entry.1) && decide (entry.1 ≠ place))

/-- The place is in a directory. -/
def isBelowDir (tree : Tree ν κ) (place : List ν) : Bool :=
  place ≠ [] && tree.isDir place.dropLast

/-- The calls that the outside may refuse. -/
inductive Call (ν : Type)
  | stat (path : List ν)
  | mkdir (path : List ν)
  | create (path : List ν)
  | remove (path : List ν)
  | symlink (path : List ν)
  deriving DecidableEq

section Calls

variable (limit : Nat) (refused : Call ν → Bool) (tree)

/-- `os.Stat`: whether the path leads to a directory, if it leads anywhere. -/
def stat (path : List ν) : Option Bool :=
  if refused (.stat path) then none
  else
    (tree.locate true limit path).bind fun place =>
      if place = [] then some true else (tree.lookup place).map Entry.isDir

/-- `os.Mkdir`. -/
def mkdir (path : List ν) : Option (Tree ν κ) :=
  if refused (.mkdir path) then none
  else
    (tree.locate false limit path).bind fun place =>
      if (tree.lookup place).isSome ∨ ¬tree.isBelowDir place then none
      else some (tree.set place (some .dir))

/-- `os.Lstat(path).IsDir`. -/
def lstatDir (path : List ν) : Bool :=
  ((tree.locate false limit path).bind fun place =>
    if place = [] then some true else (tree.lookup place).map Entry.isDir).getD false

/-- `os.MkdirAll`, of a path that is given from its last name on; the result says
whether it succeeded. -/
def mkdirAllRev : List ν → Tree ν κ → Tree ν κ × Bool
  | [], tree => (tree, true)
  | name :: above, tree =>
    let path := (name :: above).reverse
    match tree.stat limit refused path with
    | some isDir => (tree, isDir)
    | none =>
      let parent := mkdirAllRev above tree
      if parent.2 then
        match parent.1.mkdir limit refused path with
        | some made => (made, true)
        | none => (parent.1, parent.1.lstatDir limit path)
      else parent

/-- `os.MkdirAll`. -/
def mkdirAll (path : List ν) : Tree ν κ × Bool :=
  mkdirAllRev limit refused path.reverse tree

/-- `os.OpenFile` with `O_CREATE` and `O_TRUNC`, and what is then written. -/
def create (path : List ν) (data : κ) : Option (Tree ν κ) :=
  if refused (.create path) then none
  else
    (tree.locate true limit path).bind fun place =>
      if ¬tree.isBelowDir place then none
      else
        match tree.lookup place with
        | some .dir => none
        | some (.link _ _) => none
        | _ => some (tree.set place (some (.file data)))

/-- `os.Remove`. -/
def remove (path : List ν) : Option (Tree ν κ) :=
  if refused (.remove path) then none
  else
    (tree.locate false limit path).bind fun place =>
      match tree.lookup place with
      | none => none
      | some .dir => if tree.isBare place then some (tree.set place none) else none
      | some _ => some (tree.set place none)

/-- `os.Symlink`. -/
def symlink (path : List ν) (absolute : Bool) (target : List (Move ν)) : Option (Tree ν κ) :=
  if refused (.symlink path) then none
  else
    (tree.locate false limit path).bind fun place =>
      if (tree.lookup place).isSome ∨ ¬tree.isBelowDir place then none
      else some (tree.set place (some (.link absolute target)))

end Calls

/-! ## Confinement -/

/-- The place is inside a directory. -/
def Below (dest place : List ν) : Prop :=
  dest <+: place ∧ place ≠ dest

/-- Only places inside a directory have changed. -/
def Confined (dest : List ν) (before after : Tree ν κ) : Prop :=
  ∀ place, ¬Below dest place → after.lookup place = before.lookup place

/-- No place has become a link. -/
def LinkFree (before after : Tree ν κ) : Prop :=
  ∀ place, before.Plain place → after.Plain place

variable (tree) in
/-- The directory and all above it are directories. -/
def Anchored (dest : List ν) : Prop :=
  ∀ above, above <+: dest → above ≠ [] → tree.lookup above = some .dir

variable {before middle after : Tree ν κ} {dest path : List ν} {limit : Nat}
  {refused : Call ν → Bool}

theorem Confined.refl (dest : List ν) (tree : Tree ν κ) : Confined dest tree tree :=
  fun _ _ => rfl

theorem Confined.trans (first : Confined dest before middle)
    (second : Confined dest middle after) : Confined dest before after :=
  fun place outside => (second place outside).trans (first place outside)

theorem LinkFree.refl (tree : Tree ν κ) : LinkFree tree tree := fun _ plain => plain

theorem LinkFree.trans (first : LinkFree before middle) (second : LinkFree middle after) :
    LinkFree before after :=
  fun place plain => second place (first place plain)

theorem LinkFree.direct (linkFree : LinkFree before after)
    (direct : before.Direct whole path) : after.Direct whole path :=
  fun part member nonempty proper => linkFree part (direct part member nonempty proper)

theorem Anchored.confined (anchored : before.Anchored dest)
    (confined : Confined dest before after) : after.Anchored dest := by
  intro above inside nonempty
  rw [confined above]
  · exact anchored above inside nonempty
  · rintro ⟨below, different⟩
    exact different (inside.eq_of_length_le below.length_le)

theorem confined_set (below : Below dest path) (entry : Option (Entry ν κ)) :
    Confined dest tree (tree.set path entry) := by
  intro place outside
  rw [lookup_set, if_neg]
  intro same
  exact outside (same ▸ below)

theorem linkFree_prune (drops : List ν → Bool) : LinkFree tree (tree.prune drops) := by
  intro place plain entry found
  rw [lookup_prune] at found
  split_ifs at found
  · cases found
  · exact plain entry found

theorem linkFree_set {entry : Option (Entry ν κ)} (plain : ∀ new ∈ entry, new.isLink = false) :
    LinkFree tree (tree.set path entry) := by
  intro place before
  unfold Plain
  rw [lookup_set]
  split_ifs
  · exact plain
  · exact before

/-- A path from a directory on is inside it or one of its own directories. -/
theorem below_of_absent (anchored : tree.Anchored dest) (nonempty : path ≠ [])
    (related : path <+: dest ∨ dest <+: path) (absent : tree.lookup path = none) :
    Below dest path := by
  rcases related with above | inside
  · rw [anchored path above nonempty] at absent
    cases absent
  · refine ⟨inside, ?_⟩
    rintro rfl
    rw [anchored path (prefix_refl path) nonempty] at absent
    cases absent

theorem ne_nil_of_isBelowDir (inside : ¬¬tree.isBelowDir path = true) : path ≠ [] := by
  rw [not_not, isBelowDir, Bool.and_eq_true, decide_eq_true_eq] at inside
  exact inside.1

theorem mkdir_spec (direct : tree.Direct false path)
    (made : tree.mkdir limit refused path = some after) :
    path ≠ [] ∧ tree.lookup path = none ∧ after = tree.set path (some .dir) := by
  unfold mkdir at made
  rw [locate_of_direct direct] at made
  dsimp only [Option.bind_some] at made
  split_ifs at made with _ taken
  cases made
  rw [not_or, not_isSome_iff_eq_none] at taken
  exact ⟨ne_nil_of_isBelowDir taken.2, taken.1, rfl⟩

/-- `os.MkdirAll` of a direct path from a directory on makes directories inside
it and nothing else. -/
theorem mkdirAllRev_spec {names : List ν} (anchored : tree.Anchored dest)
    (related : names.reverse <+: dest ∨ dest <+: names.reverse)
    (direct : tree.Direct true names.reverse) :
    Confined dest tree (mkdirAllRev limit refused names tree).1 ∧
      LinkFree tree (mkdirAllRev limit refused names tree).1 := by
  induction names with
  | nil => exact ⟨.refl _ _, .refl _⟩
  | cons name above ih =>
    have shorter : above.reverse <+: (name :: above).reverse := by
      rw [reverse_cons]
      exact prefix_append _ _
    have relatedAbove : above.reverse <+: dest ∨ dest <+: above.reverse := by
      rcases related with inside | outside
      · exact .inl (shorter.trans inside)
      · exact prefix_or_prefix_of_prefix shorter outside
    have parent := ih relatedAbove (direct.parent shorter (by simp))
    unfold mkdirAllRev
    dsimp only
    split
    · exact ⟨.refl _ _, .refl _⟩
    split_ifs
    · split
      · rename_i made success
        rcases mkdir_spec (parent.2.direct direct).of_whole success with
          ⟨nonempty, absent, rfl⟩
        have below := below_of_absent (anchored.confined parent.1) nonempty related absent
        have plain : ∀ new ∈ some (Entry.dir : Entry ν κ), new.isLink = false := by
          rintro _ ⟨⟩
          rfl
        exact ⟨parent.1.trans (confined_set below _), parent.2.trans (linkFree_set plain)⟩
      · exact parent
    · exact parent

variable (limit refused) in
theorem mkdirAll_spec (anchored : tree.Anchored dest) (related : path <+: dest ∨ dest <+: path)
    (direct : tree.Direct true path) :
    Confined dest tree (tree.mkdirAll limit refused path).1 ∧
      LinkFree tree (tree.mkdirAll limit refused path).1 := by
  apply mkdirAllRev_spec anchored
  · rw [reverse_reverse]
    exact related
  · rw [reverse_reverse]
    exact direct

theorem create_eq_set {data : κ} (direct : tree.Direct true path)
    (created : tree.create limit refused path data = some after) :
    after = tree.set path (some (.file data)) := by
  unfold create at created
  rw [locate_of_direct direct] at created
  dsimp only [Option.bind_some] at created
  split_ifs at created
  split at created <;> cases created
  rfl

theorem create_spec {data : κ} (direct : tree.Direct true path) (below : Below dest path)
    (created : tree.create limit refused path data = some after) :
    Confined dest tree after ∧ LinkFree tree after := by
  cases create_eq_set direct created
  refine ⟨confined_set below _, linkFree_set ?_⟩
  rintro _ ⟨⟩
  rfl

theorem remove_spec (direct : tree.Direct false path) (below : Below dest path)
    (removed : tree.remove limit refused path = some after) :
    Confined dest tree after ∧ LinkFree tree after := by
  have cleared : after = tree.set path none := by
    unfold remove at removed
    rw [locate_of_direct direct] at removed
    dsimp only [Option.bind_some] at removed
    split at removed
    · cases removed
    split at removed
    · cases removed
    · split_ifs at removed
      cases removed
      rfl
    · cases removed
      rfl
  rw [cleared]
  exact ⟨confined_set below _, linkFree_set nofun⟩

theorem symlink_spec {absolute : Bool} {target : List (Move ν)} (direct : tree.Direct false path)
    (below : Below dest path)
    (linked : tree.symlink limit refused path absolute target = some after) :
    Confined dest tree after := by
  unfold symlink at linked
  rw [locate_of_direct direct] at linked
  dsimp only [Option.bind_some] at linked
  split_ifs at linked
  cases linked
  exact confined_set below _

end Tree

end LubricantNodes.Files
