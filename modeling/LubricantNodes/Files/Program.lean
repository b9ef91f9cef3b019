import LubricantNodes.Transition.Core
import LubricantNodes.Files.Links

/-!
# File programs

A program that works on files is a tree of operations: each node asks the
operating system for one operation and goes on with its reply.  An operation is
atomic; a program is not, so other programs may come between any two of its
operations, and a crash may come after any of them.

Whether an operation succeeds is decided outside, by an `Outcome`.  Outside
programs and downloads are operations too: they change whatever they like below
the roots they are given.

Operations follow symbolic links.  What an operation may touch is said for the paths
that it is given, and holds when no link lies on them.
-/

namespace LubricantNodes.Files

open Transition Files.Tree

variable {ν κ χ ρ ε δ α β : Type}

/-! ## Operations -/

/-- The errors of an operation; the caller can tell the first from the others. -/
inductive Errno
  | notExist
  | fault (reason : String)
  deriving DecidableEq

/-- The text of an error. -/
def Errno.text : Errno → String
  | notExist => "file does not exist"
  | fault reason => reason

/-- The operations on paths over `ν` and file contents `κ`; `χ` are the requests
to outside programs. -/
inductive Op (ν κ χ : Type)
  | stat (path : List ν)
  | lstat (path : List ν)
  | readDir (path : List ν)
  | readFile (path : List ν)
  | mkdirAll (path : List ν)
  | writeFile (path : List ν) (data : κ)
  | symlink (path target : List ν)
  | remove (path : List ν)
  | removeAll (path : List ν)
  | request (roots : List (List ν)) (what : χ)

namespace Op

/-- The reply to an operation: `stat` and `lstat` tell whether the path is a directory,
`readDir` the names with the same bit, and a request is answered by `ρ`. -/
def Reply (ρ : Type) : Op ν κ χ → Type
  | stat _ | lstat _ => Except Errno Bool
  | readDir _ => Except Errno (List (ν × Bool))
  | readFile _ => Except Errno κ
  | request _ _ => Except Errno ρ
  | _ => Except Errno Unit

/-- The paths an operation may change, create or remove, when no link lies on its own. -/
def touches : Op ν κ χ → List ν → Prop
  | mkdirAll path, other => other <+: path
  | writeFile path _, other => other = path
  | symlink path _, other => other = path
  | remove path, other => other = path
  | removeAll path, other => path <+: other
  | request roots _, other => ∃ root ∈ roots, root <+: other ∨ other <+: root
  | _, _ => False

/-- The paths whose existing entry an operation may change or remove. -/
def alters : Op ν κ χ → List ν → Prop
  | writeFile path _, other => other = path
  | remove path, other => other = path
  | removeAll path, other => path <+: other
  | request roots _, other => ∃ root ∈ roots, root <+: other
  | _, _ => False

end Op

/-- What the outside decides about one operation.  `fault` makes it fail;
`progress` is how many directories a failed `mkdirAll` has looked at, `left` what
a failed write leaves in the file, and `changes` what a failed `removeAll` has
removed or a request has changed. -/
structure Outcome (ν κ ρ : Type) where
  fault : Option String := none
  progress : Nat := 0
  left : Option κ := none
  changes : List (List ν × Option (Entry ν κ)) := []
  answer : ρ

section Semantics

variable [DecidableEq ν]

/-- A request may change what lies below its roots and make directories above
them. -/
def Tree.permits (roots : List (List ν)) (tree : Tree ν κ) (path : List ν) :
    Option (Entry ν κ) → Bool
  | some .dir =>
    roots.any (fun root => decide (root <+: path)) ||
      (roots.any (fun root => decide (path <+: root)) && (tree.lookup path).isNone)
  | _ => roots.any fun root => decide (root <+: path)

/-- A file can be written: its directory exists and no directory is in its
place. -/
def Tree.writable (tree : Tree ν κ) (path : List ν) : Bool :=
  tree.isDir path.dropLast && !tree.isDir path

/-- The text of a fault that is due to the tree. -/
def Tree.refuse (reason : String) (refused : Bool) : Except Errno Unit :=
  if refused then .error (.fault reason) else .ok ()

/-- The reply of an operation at the place that a path leads to. -/
def Tree.answerAt (tree : Tree ν κ) (follow : Bool) (path : List ν)
    (answer : List ν → Except Errno α) : Except Errno α :=
  match tree.locate follow maxLinks path with
  | some place => answer place
  | none => .error (.fault "too many levels of symbolic links")

/-- The effect of an operation at the place that a path leads to. -/
def Tree.changeAt (tree : Tree ν κ) (follow : Bool) (path : List ν)
    (change : List ν → Tree ν κ) : Tree ν κ :=
  match tree.locate follow maxLinks path with
  | some place => change place
  | none => tree

/-- The places that the roots of a request lead to. -/
def Tree.rootsAt (tree : Tree ν κ) (roots : List (List ν)) : List (List ν) :=
  roots.filterMap (tree.locate true maxLinks)

/-- The reply of an operation that has not been made to fail.  All operations follow links
on the way; `lstat` and those that make or remove an entry do not follow one at the end. -/
def Op.answer (tree : Tree ν κ) (answer : ρ) : (op : Op ν κ χ) → op.Reply ρ
  | stat path =>
    tree.answerAt true path fun place =>
      match tree.lookup place with
      | some entry => .ok entry.isDir
      | none => .error .notExist
  | lstat path =>
    tree.answerAt false path fun place =>
      match tree.lookup place with
      | some entry => .ok entry.isDir
      | none => .error .notExist
  | readDir path =>
    tree.answerAt true path fun place =>
      match tree.lookup place with
      | some .dir =>
        .ok ((tree.names place).map fun name => (name, tree.isDir (place ++ [name])))
      | some _ => .error (.fault "not a directory")
      | none => .error .notExist
  | readFile path =>
    tree.answerAt true path fun place =>
      match tree.lookup place with
      | some (.file data) => .ok data
      | some _ => .error (.fault "is a directory")
      | none => .error .notExist
  | mkdirAll path => Tree.refuse "not a directory" (tree.blocked path)
  | writeFile path _ =>
    tree.answerAt true path fun place =>
      Tree.refuse "no such file or directory" (!tree.writable place)
  | symlink path _ =>
    tree.answerAt false path fun place =>
      if (tree.lookup place).isSome then .error (.fault "file exists")
      else Tree.refuse "no such file or directory" (!tree.isBelowDir place)
  | remove path =>
    tree.answerAt false path fun place =>
      match tree.lookup place with
      | none => .error .notExist
      | some _ => Tree.refuse "directory not empty" (tree.names place ≠ [])
  | removeAll path => tree.answerAt false path fun _ => .ok ()
  | request _ _ => .ok answer

/-- The reply of an operation that has been made to fail. -/
def Op.refusal (reason : String) : (op : Op ν κ χ) → op.Reply ρ
  | stat _ | lstat _ | readDir _ | readFile _ | mkdirAll _ | writeFile _ _ | symlink _ _
  | remove _ | removeAll _ | request _ _ => Except.error (Errno.fault reason)

/-- The reply to an operation. -/
def Op.reply (op : Op ν κ χ) (outcome : Outcome ν κ ρ) (tree : Tree ν κ) : op.Reply ρ :=
  match outcome.fault with
  | none => op.answer tree outcome.answer
  | some reason => op.refusal reason

/-- The effect of an operation that has not been made to fail. -/
def Op.success (changes : List (List ν × Option (Entry ν κ))) (tree : Tree ν κ) :
    Op ν κ χ → Tree ν κ
  | mkdirAll path => if tree.blocked path then tree else tree.changeAt true path tree.mkdirs
  | writeFile path data =>
    tree.changeAt true path fun place =>
      if tree.writable place then tree.set place (some (.file data)) else tree
  | symlink path target =>
    tree.changeAt false path fun place =>
      if (tree.lookup place).isSome ∨ ¬tree.isBelowDir place then tree
      else tree.set place (some (.link true (target.map .down)))
  | remove path =>
    tree.changeAt false path fun place =>
      if tree.names place = [] then tree.set place none else tree
  | removeAll path => tree.changeAt false path tree.removeAll
  | request roots _ => tree.patch (Tree.permits (tree.rootsAt roots)) changes
  | _ => tree

/-- The effect of an operation that has been made to fail. -/
def Op.failure (outcome : Outcome ν κ ρ) (tree : Tree ν κ) : Op ν κ χ → Tree ν κ
  | mkdirAll path =>
    if tree.blocked path then tree
    else tree.changeAt true path fun place => tree.mkdirs (place.take outcome.progress)
  | writeFile path _ =>
    match outcome.left with
    | some data =>
      tree.changeAt true path fun place =>
        if tree.writable place then tree.set place (some (.file data)) else tree
    | none => tree
  | removeAll path =>
    tree.changeAt false path fun place =>
      tree.prune fun other =>
        decide (place <+: other) && decide (other ∈ outcome.changes.map Prod.fst)
  | request roots _ => tree.patch (Tree.permits (tree.rootsAt roots)) outcome.changes
  | _ => tree

/-- The effect of an operation. -/
def Op.effect (op : Op ν κ χ) (outcome : Outcome ν κ ρ) (tree : Tree ν κ) : Tree ν κ :=
  match outcome.fault with
  | none => op.success outcome.changes tree
  | some _ => op.failure outcome tree

section Reading

variable (outcome : Outcome ν κ ρ) (tree : Tree ν κ) (path : List ν)

@[simp]
theorem Op.effect_readDir : (Op.readDir path : Op ν κ χ).effect outcome tree = tree := by
  cases fault : outcome.fault <;> simp [effect, fault, success, failure]

end Reading

/-- An operation is answered, or it fails. -/
theorem Op.reply_cases (op : Op ν κ χ) (outcome : Outcome ν κ ρ) (tree : Tree ν κ) :
    op.reply outcome tree = op.answer tree outcome.answer ∨
      ∃ reason, op.reply outcome tree = op.refusal reason := by
  cases fault : outcome.fault with
  | none => exact .inl (by simp only [reply, fault])
  | some reason => exact .inr ⟨reason, by simp only [reply, fault]⟩

/-! ## Operations that meet no link -/

/-- No link lies on a path of the operation. -/
def Op.Direct (tree : Tree ν κ) : Op ν κ χ → Prop
  | stat path | readDir path | readFile path | mkdirAll path | writeFile path _ =>
    tree.Direct true path
  | lstat path | symlink path _ | remove path | removeAll path => tree.Direct false path
  | request roots _ => ∀ root ∈ roots, tree.Direct true root

instance (tree : Tree ν κ) (op : Op ν κ χ) : Decidable (op.Direct tree) := by
  unfold Op.Direct
  split <;> infer_instance

section Direct

variable {tree : Tree ν κ} {follow : Bool} {path : List ν} (direct : tree.Direct follow path)

include direct

theorem Tree.answerAt_of_direct (answer : List ν → Except Errno α) :
    tree.answerAt follow path answer = answer path := by
  unfold answerAt
  rw [locate_of_direct direct]

theorem Tree.changeAt_of_direct (change : List ν → Tree ν κ) :
    tree.changeAt follow path change = change path := by
  unfold changeAt
  rw [locate_of_direct direct]

end Direct

theorem Tree.rootsAt_of_direct {tree : Tree ν κ} {roots : List (List ν)}
    (direct : ∀ root ∈ roots, tree.Direct true root) : tree.rootsAt roots = roots := by
  have same : ∀ root ∈ roots, tree.locate true maxLinks root = some root :=
    fun root member => locate_of_direct (direct root member)
  unfold rootsAt
  rw [List.filterMap_congr same, List.filterMap_some]

/-! ## Footprints of operations -/

theorem Tree.permits_eq_false {roots : List (List ν)} {tree : Tree ν κ} {path : List ν}
    (outside : ∀ root ∈ roots, ¬root <+: path)
    (above : ∀ root ∈ roots, path <+: root → (tree.lookup path).isSome)
    (entry : Option (Entry ν κ)) : tree.permits roots path entry = false := by
  have below : (roots.any fun root => decide (root <+: path)) = false := by
    simpa using outside
  cases entry with
  | none => exact below
  | some found =>
    cases found with
    | dir =>
      simp only [permits, below, Bool.false_or, Bool.and_eq_false_iff]
      by_cases reached : ∃ root ∈ roots, path <+: root
      · rcases reached with ⟨root, member, under⟩
        right
        rw [Option.isNone_eq_false_iff]
        exact above root member under
      · left
        simpa using fun root member under => reached ⟨root, member, under⟩
    | file | link => exact below

/-- A path that an operation does not touch is left alone. -/
theorem Op.lookup_effect_of_not_touches {op : Op ν κ χ} {path : List ν} {tree : Tree ν κ}
    (untouched : ¬op.touches path) (direct : op.Direct tree) (outcome : Outcome ν κ ρ) :
    (op.effect outcome tree).lookup path = tree.lookup path := by
  cases op with
  | stat | lstat | readDir | readFile =>
    cases fault : outcome.fault <;> simp [effect, fault, success, failure]
  | mkdirAll other =>
    have shorter : ∀ count, ¬path <+: other.take count := fun count under =>
      untouched (under.trans (List.take_prefix count other))
    simp only [touches] at untouched
    cases fault : outcome.fault <;>
      simp only [effect, fault, success, failure, changeAt_of_direct direct] <;> split_ifs <;>
      simp [lookup_mkdirs, untouched, shorter]
  | writeFile other data =>
    simp only [touches] at untouched
    cases fault : outcome.fault with
    | none =>
      simp only [effect, fault, success, changeAt_of_direct direct]
      split_ifs <;> simp [untouched]
    | some =>
      simp only [effect, fault, failure, changeAt_of_direct direct]
      cases outcome.left with
      | none => rfl
      | some =>
        split_ifs <;> simp [untouched]
  | symlink | remove =>
    simp only [touches] at untouched
    cases fault : outcome.fault with
    | none =>
      simp only [effect, fault, success, changeAt_of_direct direct]
      split_ifs <;> simp [untouched]
    | some => simp only [effect, fault, failure]
  | removeAll =>
    simp only [touches] at untouched
    cases fault : outcome.fault <;>
      simp [effect, fault, success, failure, changeAt_of_direct direct, untouched, lookup_prune]
  | request roots what =>
    have closed : ∀ (patched : Tree ν κ) (entry : Option (Entry ν κ)),
        patched.lookup path = tree.lookup path → patched.permits roots path entry = false := by
      intro patched entry _
      apply permits_eq_false
      · exact fun root member under => untouched ⟨root, member, .inl under⟩
      · exact fun root member under => absurd ⟨root, member, .inr under⟩ untouched
    cases fault : outcome.fault <;>
      simp only [effect, fault, success, failure, rootsAt_of_direct direct] <;>
      exact lookup_patch_of_forbidden outcome.changes closed

/-- An existing entry that an operation does not alter stays. -/
theorem Op.lookup_effect_of_not_alters {op : Op ν κ χ} {path : List ν} {tree : Tree ν κ}
    (unaltered : ¬op.alters path) (existing : (tree.lookup path).isSome)
    (direct : op.Direct tree) (outcome : Outcome ν κ ρ) :
    (op.effect outcome tree).lookup path = tree.lookup path := by
  have present : tree.lookup path ≠ none := by
    intro absent
    rw [absent] at existing
    cases existing
  cases op with
  | stat | lstat | readDir | readFile | writeFile | remove | removeAll =>
    apply lookup_effect_of_not_touches _ direct
    exact unaltered
  | mkdirAll =>
    cases fault : outcome.fault <;>
      simp only [effect, fault, success, failure, changeAt_of_direct direct] <;> split_ifs <;>
      simp [lookup_mkdirs, present]
  | symlink =>
    cases fault : outcome.fault with
    | some => simp only [effect, fault, failure]
    | none =>
      simp only [effect, fault, success, changeAt_of_direct direct]
      split_ifs with taken
      · rfl
      · rw [lookup_set, if_neg]
        rintro rfl
        exact taken (.inl existing)
  | request roots what =>
    have closed : ∀ (patched : Tree ν κ) (entry : Option (Entry ν κ)),
        patched.lookup path = tree.lookup path → patched.permits roots path entry = false := by
      intro patched entry same
      apply permits_eq_false
      · exact fun root member under => unaltered ⟨root, member, under⟩
      · intro root member under
        rw [same]
        exact existing
    cases fault : outcome.fault <;>
      simp only [effect, fault, success, failure, rootsAt_of_direct direct] <;>
      exact lookup_patch_of_forbidden outcome.changes closed

/-- `os.RemoveAll` makes no link. -/
theorem Op.linkFree_removeAll {path : List ν} {tree : Tree ν κ} (direct : tree.Direct false path)
    (outcome : Outcome ν κ ρ) :
    LinkFree tree ((removeAll path : Op ν κ χ).effect outcome tree) := by
  cases fault : outcome.fault <;>
    simp only [effect, fault, success, failure, changeAt_of_direct direct] <;>
    exact linkFree_prune _

end Semantics

/-! ## Programs -/

/-- A program that returns an `α` or fails with an `ε`. -/
inductive Prog (ν κ χ ρ ε α : Type)
  | ret (value : α)
  | fail (error : ε)
  | ask (op : Op ν κ χ) (next : op.Reply ρ → Prog ν κ χ ρ ε α)

namespace Prog

/-- Run a program and go on with its value. -/
def bind : Prog ν κ χ ρ ε α → (α → Prog ν κ χ ρ ε β) → Prog ν κ χ ρ ε β
  | ret value, rest => rest value
  | fail error, _ => fail error
  | ask op next, rest => ask op fun reply => (next reply).bind rest

instance : Monad (Prog ν κ χ ρ ε) where
  pure := ret
  bind := bind

/-- Run a program and go on whether it fails or not. -/
def attempt : Prog ν κ χ ρ ε α → Prog ν κ χ ρ ε (Except ε α)
  | ret value => ret (.ok value)
  | fail error => ret (.error error)
  | ask op next => ask op fun reply => (next reply).attempt

/-- Change the errors of a program. -/
def mapError (wrap : ε → δ) : Prog ν κ χ ρ ε α → Prog ν κ χ ρ δ α
  | ret value => ret value
  | fail error => fail (wrap error)
  | ask op next => ask op fun reply => (next reply).mapError wrap

/-- Run a program for every element of a list, up to the first failure. -/
def each (items : List β) (body : β → Prog ν κ χ ρ ε Unit) : Prog ν κ χ ρ ε Unit :=
  match items with
  | [] => ret ()
  | item :: rest => bind (body item) fun _ => each rest body

/-- Run a program under a condition. -/
def when (condition : Prop) [Decidable condition] (prog : Prog ν κ χ ρ ε Unit) :
    Prog ν κ χ ρ ε Unit :=
  if condition then prog else ret ()

/-- Fail on an error. -/
def orFail (wrap : Errno → ε) : Except Errno α → Prog ν κ χ ρ ε α
  | .ok value => ret value
  | .error error => fail (wrap error)

/-- `os.Stat`. -/
def stat (path : List ν) : Prog ν κ χ ρ ε (Except Errno Bool) :=
  ask (.stat path) ret

/-- `os.Lstat`. -/
def lstat (path : List ν) : Prog ν κ χ ρ ε (Except Errno Bool) :=
  ask (.lstat path) ret

/-- `os.ReadDir`. -/
def readDir (path : List ν) : Prog ν κ χ ρ ε (Except Errno (List (ν × Bool))) :=
  ask (.readDir path) ret

/-- `os.ReadFile`. -/
def readFile (path : List ν) : Prog ν κ χ ρ ε (Except Errno κ) :=
  ask (.readFile path) ret

/-- `os.MkdirAll`. -/
def mkdirAll (wrap : Errno → ε) (path : List ν) : Prog ν κ χ ρ ε Unit :=
  ask (.mkdirAll path) (orFail wrap)

/-- `os.WriteFile`. -/
def writeFile (wrap : Errno → ε) (path : List ν) (data : κ) : Prog ν κ χ ρ ε Unit :=
  ask (.writeFile path data) (orFail wrap)

/-- `os.Symlink`, with the path of the link first. -/
def symlink (wrap : Errno → ε) (path target : List ν) : Prog ν κ χ ρ ε Unit :=
  ask (.symlink path target) (orFail wrap)

/-- `os.Remove`. -/
def remove (path : List ν) : Prog ν κ χ ρ ε (Except Errno Unit) :=
  ask (.remove path) ret

/-- `os.RemoveAll`. -/
def removeAll (wrap : Errno → ε) (path : List ν) : Prog ν κ χ ρ ε Unit :=
  ask (.removeAll path) (orFail wrap)

/-- A request to an outside program that works below some roots. -/
def request (wrap : Errno → ε) (roots : List (List ν)) (what : χ) : Prog ν κ χ ρ ε ρ :=
  ask (.request roots what) (orFail wrap)

/-! ## Footprints of programs -/

/-- Whatever the replies, every operation of the program meets `ok`. -/
inductive Issues (ok : Op ν κ χ → Prop) : Prog ν κ χ ρ ε α → Prop
  | ret {value : α} : Issues ok (ret value)
  | fail {error : ε} : Issues ok (fail error)
  | ask {op : Op ν κ χ} {next : op.Reply ρ → Prog ν κ χ ρ ε α} : ok op →
      (∀ reply, Issues ok (next reply)) → Issues ok (ask op next)

section Footprints

variable {ok good : Op ν κ χ → Prop} {prog : Prog ν κ χ ρ ε α}

section Issues

variable (issues : prog.Issues ok)

include issues

theorem Issues.mono (weaker : ∀ op, ok op → good op) : prog.Issues good := by
  induction issues with
  | ret => exact .ret
  | fail => exact .fail
  | ask met _ ih => exact .ask (weaker _ met) ih

variable {rest : α → Prog ν κ χ ρ ε β}

theorem Issues.bind (after : ∀ value, (rest value).Issues ok) : (prog.bind rest).Issues ok := by
  induction issues with
  | ret => exact after _
  | fail => exact .fail
  | ask met _ ih => exact .ask met ih

/-- `Issues.bind` for `do` blocks. -/
theorem Issues.andThen (after : ∀ value, (rest value).Issues ok) : (prog >>= rest).Issues ok :=
  issues.bind after

theorem Issues.attempt : prog.attempt.Issues ok := by
  induction issues with
  | ret | fail => exact .ret
  | ask met _ ih => exact .ask met ih

theorem Issues.mapError {wrap : ε → δ} : (prog.mapError wrap).Issues ok := by
  induction issues with
  | ret => exact .ret
  | fail => exact .fail
  | ask met _ ih => exact .ask met ih

end Issues

theorem issues_each {items : List β} {body : β → Prog ν κ χ ρ ε Unit}
    (issues : ∀ item ∈ items, (body item).Issues ok) : (each items body).Issues ok := by
  induction items with
  | nil => exact .ret
  | cons item rest ih =>
    apply (issues item List.mem_cons_self).bind
    intro _
    exact ih fun other member => issues other (List.mem_cons_of_mem item member)

theorem issues_when {condition : Prop} [Decidable condition] {prog : Prog ν κ χ ρ ε Unit}
    (issues : condition → prog.Issues ok) : (when condition prog).Issues ok := by
  unfold when
  split_ifs with met
  · exact issues met
  · exact .ret

theorem issues_orFail (wrap : Errno → ε) (reply : Except Errno α) :
    (orFail wrap reply : Prog ν κ χ ρ ε α).Issues ok := by
  cases reply with
  | ok => exact .ret
  | error => exact .fail

variable {path : List ν}

theorem issues_stat (met : ok (.stat path)) : (stat path : Prog ν κ χ ρ ε _).Issues ok :=
  .ask met fun _ => .ret

theorem issues_lstat (met : ok (.lstat path)) : (lstat path : Prog ν κ χ ρ ε _).Issues ok :=
  .ask met fun _ => .ret

theorem issues_readDir (met : ok (.readDir path)) : (readDir path : Prog ν κ χ ρ ε _).Issues ok :=
  .ask met fun _ => .ret

theorem issues_readFile (met : ok (.readFile path)) :
    (readFile path : Prog ν κ χ ρ ε _).Issues ok :=
  .ask met fun _ => .ret

variable {wrap : Errno → ε}

theorem issues_mkdirAll (met : ok (.mkdirAll path)) :
    (mkdirAll wrap path : Prog ν κ χ ρ ε _).Issues ok :=
  .ask met fun _ => issues_orFail ..

theorem issues_writeFile {data : κ}
    (met : ok (.writeFile path data)) : (writeFile wrap path data : Prog ν κ χ ρ ε _).Issues ok :=
  .ask met fun _ => issues_orFail ..

theorem issues_symlink {target : List ν} (met : ok (.symlink path target)) :
    (symlink wrap path target : Prog ν κ χ ρ ε _).Issues ok :=
  .ask met fun _ => issues_orFail ..

theorem issues_remove (met : ok (.remove path)) : (remove path : Prog ν κ χ ρ ε _).Issues ok :=
  .ask met fun _ => .ret

theorem issues_removeAll (met : ok (.removeAll path)) :
    (removeAll wrap path : Prog ν κ χ ρ ε _).Issues ok :=
  .ask met fun _ => issues_orFail ..

theorem issues_request {roots : List (List ν)} {what : χ}
    (met : ok (.request roots what)) : (request wrap roots what : Prog ν κ χ ρ ε _).Issues ok :=
  .ask met fun _ => issues_orFail ..

/-! ## What a program can return -/

/-- Some replies make the program return the value. -/
inductive Yields : Prog ν κ χ ρ ε α → α → Prop
  | ret {value : α} : Yields (ret value) value
  | ask {op : Op ν κ χ} {next : op.Reply ρ → Prog ν κ χ ρ ε α} {value : α}
      (reply : op.Reply ρ) : Yields (next reply) value → Yields (ask op next) value

variable {value : α}

section Yields

variable (yields : prog.Yields value)

include yields

theorem Yields.bind {final : β} (after : (rest value).Yields final) :
    (prog.bind rest).Yields final := by
  induction yields with
  | ret => exact after
  | ask reply _ ih => exact .ask reply (ih after)

/-- `Yields.bind` for `do` blocks. -/
theorem Yields.andThen {final : β} (after : (rest value).Yields final) :
    (prog >>= rest).Yields final :=
  yields.bind after

theorem Yields.attempt : prog.attempt.Yields (.ok value) := by
  induction yields with
  | ret => exact .ret
  | ask reply _ ih => exact .ask reply ih

theorem Yields.mapError {wrap : ε → δ} : (prog.mapError wrap).Yields value := by
  induction yields with
  | ret => exact .ret
  | ask reply _ ih => exact .ask reply ih

end Yields

/-- What follows a program that can return is part of the whole. -/
theorem Issues.of_bind (issues : (prog.bind rest).Issues ok) (yields : prog.Yields value) :
    (rest value).Issues ok := by
  induction yields with
  | ret => exact issues
  | ask reply _ ih =>
    cases issues with
    | ask _ after => exact ih (after reply)

theorem Issues.of_mapError {wrap : ε → δ} (issues : (prog.mapError wrap).Issues ok) :
    prog.Issues ok := by
  induction prog with
  | ret => exact .ret
  | fail => exact .fail
  | ask op next ih =>
    cases issues with
    | ask met after => exact .ask met fun reply => ih reply (after reply)

/-- The first of two programs is part of the whole. -/
theorem Issues.of_bind_left (issues : (prog.bind rest).Issues ok) : prog.Issues ok := by
  induction prog with
  | ret => exact .ret
  | fail => exact .fail
  | ask op next ih =>
    cases issues with
    | ask met after => exact .ask met fun reply => ih reply (after reply)

end Footprints

end Prog

end LubricantNodes.Files
