import LubricantNodes.Files.Program

/-!
# Runs of file programs

A program on its own takes one operation after the other; it has run when it
returns or fails.  A pool is a set of programs over one tree whose operations
interleave, started one by one and ended by a crash at any time.

A program whose operations spare a set of paths leaves those paths alone, on its
own and in every pool of such programs, as long as no operation is led through a
symbolic link.
-/

namespace LubricantNodes.Files

open Transition List

variable {ν κ χ ρ ε α β γ : Type} [DecidableEq ν]

/-! ## Sparing and preserving -/

/-- The operation touches none of the paths. -/
def Spares (paths : List ν → Prop) (op : Op ν κ χ) : Prop :=
  ∀ path, paths path → ¬op.touches path

/-- The operation alters nothing that exists at the paths. -/
def Preserves (paths : List ν → Prop) (op : Op ν κ χ) : Prop :=
  ∀ path, paths path → ¬op.alters path

/-- What exists in the first tree at the paths is there in the second. -/
def Kept (paths : List ν → Prop) (first second : Tree ν κ) : Prop :=
  ∀ path, paths path → (first.lookup path).isSome → second.lookup path = first.lookup path

variable {paths : List ν → Prop}

theorem Kept.refl (tree : Tree ν κ) : Kept paths tree tree := fun _ _ _ => rfl

theorem Kept.trans {first second third : Tree ν κ}
    (kept : Kept paths first second) (further : Kept paths second third) :
    Kept paths first third := by
  intro path here existing
  have same := kept path here existing
  rw [further path here (by rw [same]; exact existing), same]

theorem Spares.agree {op : Op ν κ χ} {tree : Tree ν κ} (spares : Spares paths op)
    (direct : op.Direct tree) (outcome : Outcome ν κ ρ) :
    Agree paths tree (op.effect outcome tree) :=
  fun path here => Op.lookup_effect_of_not_touches (spares path here) direct outcome

theorem Preserves.kept {op : Op ν κ χ} {tree : Tree ν κ} (preserves : Preserves paths op)
    (direct : op.Direct tree) (outcome : Outcome ν κ ρ) :
    Kept paths tree (op.effect outcome tree) := by
  intro path here existing
  exact Op.lookup_effect_of_not_alters (preserves path here) existing direct outcome

/-- The operation works below the roots: it changes what exists only there, and
besides makes directories on the way to them. -/
structure Within (roots : List (List ν)) (op : Op ν κ χ) : Prop where
  touched : ∀ path, op.touches path → ∃ root ∈ roots, root <+: path ∨ path <+: root
  altered : ∀ path, op.alters path → ∃ root ∈ roots, root <+: path

namespace Within

variable {roots wider : List (List ν)} {op : Op ν κ χ} {path root : List ν}

omit [DecidableEq ν]

theorem of_no_effect (untouched : ∀ path, ¬op.touches path) (unaltered : ∀ path, ¬op.alters path) :
    Within roots op :=
  ⟨fun path touched => absurd touched (untouched path),
    fun path altered => absurd altered (unaltered path)⟩

@[simp]
theorem stat : Within roots (.stat path : Op ν κ χ) := of_no_effect (fun _ => id) fun _ => id

@[simp]
theorem lstat : Within roots (.lstat path : Op ν κ χ) := of_no_effect (fun _ => id) fun _ => id

@[simp]
theorem readDir : Within roots (.readDir path : Op ν κ χ) := of_no_effect (fun _ => id) fun _ => id

@[simp]
theorem readFile : Within roots (.readFile path : Op ν κ χ) :=
  of_no_effect (fun _ => id) fun _ => id

theorem mkdirAll (member : root ∈ roots) (near : root <+: path ∨ path <+: root) :
    Within roots (.mkdirAll path : Op ν κ χ) := by
  constructor
  · intro other touched
    refine ⟨root, member, ?_⟩
    rcases near with below | above
    · exact prefix_or_prefix_of_prefix below touched
    · exact .inr (touched.trans above)
  · exact fun other altered => absurd altered id

section Below

variable (member : root ∈ roots) (below : root <+: path)

include member below

theorem writeFile {data : κ} : Within roots (.writeFile path data : Op ν κ χ) := by
  constructor
  · rintro other rfl
    exact ⟨root, member, .inl below⟩
  · rintro other rfl
    exact ⟨root, member, below⟩

theorem symlink {target : List ν} : Within roots (.symlink path target : Op ν κ χ) := by
  constructor
  · rintro other rfl
    exact ⟨root, member, .inl below⟩
  · exact fun other altered => absurd altered id

theorem remove : Within roots (.remove path : Op ν κ χ) := by
  constructor
  · rintro other rfl
    exact ⟨root, member, .inl below⟩
  · rintro other rfl
    exact ⟨root, member, below⟩

theorem removeAll : Within roots (.removeAll path : Op ν κ χ) := by
  constructor
  · exact fun other touched => ⟨root, member, .inl (below.trans touched)⟩
  · exact fun other altered => ⟨root, member, below.trans altered⟩

end Below

theorem request {targets : List (List ν)} {what : χ}
    (below : ∀ target ∈ targets, ∃ root ∈ roots, root <+: target) :
    Within roots (.request targets what : Op ν κ χ) := by
  constructor
  · rintro other ⟨target, member, near⟩
    rcases below target member with ⟨root, among, under⟩
    refine ⟨root, among, ?_⟩
    rcases near with inside | above
    · exact .inl (under.trans inside)
    · exact prefix_or_prefix_of_prefix under above
  · rintro other ⟨target, member, inside⟩
    rcases below target member with ⟨root, among, under⟩
    exact ⟨root, among, under.trans inside⟩

/-- An operation below some roots is one below the roots above them. -/
theorem mono (within : Within roots op)
    (covered : ∀ root ∈ roots, ∃ above ∈ wider, above <+: root) : Within wider op := by
  constructor
  · intro path touched
    rcases within.touched path touched with ⟨root, member, near⟩
    rcases covered root member with ⟨above, among, under⟩
    refine ⟨above, among, ?_⟩
    rcases near with inside | outside
    · exact .inl (under.trans inside)
    · exact prefix_or_prefix_of_prefix under outside
  · intro path altered
    rcases within.altered path altered with ⟨root, member, inside⟩
    rcases covered root member with ⟨above, among, under⟩
    exact ⟨above, among, under.trans inside⟩

theorem spares {paths : List ν → Prop} (within : Within roots op)
    (apart : ∀ path, paths path → ∀ root ∈ roots, Apart root path) : Spares paths op := by
  intro path here touched
  rcases within.touched path touched with ⟨root, member, inside | outside⟩
  · exact (apart path here root member).1 inside
  · exact (apart path here root member).2 outside

theorem preserves {paths : List ν → Prop} (within : Within roots op)
    (outside : ∀ path, paths path → ∀ root ∈ roots, ¬root <+: path) : Preserves paths op := by
  intro path here altered
  rcases within.altered path altered with ⟨root, member, inside⟩
  exact outside path here root member inside

end Within

namespace Prog

/-! ## One program -/

/-- The program has come from one point to another; every operation has met a tree and
had an outcome that `env` admits. -/
inductive Steps (env : Tree ν κ → Op ν κ χ → Outcome ν κ ρ → Prop) :
    Prog ν κ χ ρ ε α → Tree ν κ → Prog ν κ χ ρ ε α → Tree ν κ → Prop
  | refl {prog tree} : Steps env prog tree prog tree
  | ask {op} {next : op.Reply ρ → Prog ν κ χ ρ ε α} {tree tree' : Tree ν κ}
      {prog : Prog ν κ χ ρ ε α} (outcome : Outcome ν κ ρ) : env tree op outcome →
      Steps env (next (op.reply outcome tree)) (op.effect outcome tree) prog tree' →
      Steps env (ask op next) tree prog tree'

/-- The program has run to its end. -/
inductive Runs (env : Tree ν κ → Op ν κ χ → Outcome ν κ ρ → Prop) :
    Prog ν κ χ ρ ε α → Tree ν κ → Except ε α → Tree ν κ → Prop
  | ret {value tree} : Runs env (ret value) tree (.ok value) tree
  | fail {error tree} : Runs env (fail error) tree (.error error) tree
  | ask {op} {next : op.Reply ρ → Prog ν κ χ ρ ε α} {tree tree' : Tree ν κ}
      {result : Except ε α} (outcome : Outcome ν κ ρ) : env tree op outcome →
      Runs env (next (op.reply outcome tree)) (op.effect outcome tree) result tree' →
      Runs env (ask op next) tree result tree'

/-- Every outcome is admitted. -/
def anyOutcome (_ : Tree ν κ) (_ : Op ν κ χ) (_ : Outcome ν κ ρ) : Prop :=
  True

/-- No operation is led through a link. -/
def linkFree (tree : Tree ν κ) (op : Op ν κ χ) (_ : Outcome ν κ ρ) : Prop :=
  op.Direct tree

/-- Run a program with given outcomes. -/
def exec : Prog ν κ χ ρ ε α → List (Outcome ν κ ρ) → Tree ν κ → Prog ν κ χ ρ ε α × Tree ν κ
  | ask op next, outcome :: rest, tree =>
    exec (next (op.reply outcome tree)) rest (op.effect outcome tree)
  | prog, _, tree => (prog, tree)

/-- With these outcomes no operation of the program is led through a link. -/
def direct : Prog ν κ χ ρ ε α → List (Outcome ν κ ρ) → Tree ν κ → Bool
  | ask op next, outcome :: rest, tree =>
    op.Direct tree && direct (next (op.reply outcome tree)) rest (op.effect outcome tree)
  | _, _, _ => true

variable {env : Tree ν κ → Op ν κ χ → Outcome ν κ ρ → Prop} {paths : List ν → Prop}
  {prog prog' : Prog ν κ χ ρ ε α} {tree tree' : Tree ν κ} {result : Except ε α}

theorem steps_exec {outcomes : List (Outcome ν κ ρ)} (direct : prog.direct outcomes tree = true) :
    Steps linkFree prog tree (prog.exec outcomes tree).1 (prog.exec outcomes tree).2 := by
  induction outcomes generalizing prog tree with
  | nil => cases prog <;> exact .refl
  | cons outcome rest ih =>
    cases prog with
    | ret | fail => exact .refl
    | ask =>
      rcases Bool.and_eq_true_iff.mp direct with ⟨first, others⟩
      rw [decide_eq_true_eq] at first
      exact .ask outcome first (ih others)

variable {rest : α → Prog ν κ χ ρ ε β}

/-- A run of two programs one after the other. -/
theorem runs_bind_iff {result : Except ε β} : Runs env (prog.bind rest) tree result tree' ↔
      (∃ value middle, Runs env prog tree (.ok value) middle ∧
        Runs env (rest value) middle result tree') ∨
      ∃ error, Runs env prog tree (.error error) tree' ∧ result = .error error := by
  induction prog generalizing tree with
  | ret value =>
    constructor
    · exact fun runs => .inl ⟨value, tree, .ret, runs⟩
    · rintro (⟨_, _, first, second⟩ | ⟨_, first, _⟩)
      · cases first
        exact second
      · cases first
  | fail error =>
    constructor
    · intro runs
      cases runs
      exact .inr ⟨error, .fail, rfl⟩
    · rintro (⟨_, _, first, _⟩ | ⟨_, first, rfl⟩)
      · cases first
      · cases first
        exact .fail
  | ask op next ih =>
    constructor
    · intro runs
      cases runs with
      | ask outcome admitted runs =>
        rcases (ih _).mp runs with ⟨value, middle, first, second⟩ | ⟨error, first, same⟩
        · exact .inl ⟨value, middle, .ask outcome admitted first, second⟩
        · exact .inr ⟨error, .ask outcome admitted first, same⟩
    · rintro (⟨value, middle, first, second⟩ | ⟨error, first, rfl⟩)
      · cases first with
        | ask outcome admitted first =>
          exact .ask outcome admitted ((ih _).mpr (.inl ⟨value, middle, first, second⟩))
      · cases first with
        | ask outcome admitted first =>
          exact .ask outcome admitted ((ih _).mpr (.inr ⟨error, first, rfl⟩))

/-- A program that has run is followed by the rest. -/
theorem Runs.steps_bind {value : α} (runs : Runs env prog tree (.ok value) tree') :
    Steps env (prog.bind rest) tree (rest value) tree' := by
  generalize ended : Except.ok value = result at runs
  induction runs with
  | ret =>
    cases ended
    exact .refl
  | fail => cases ended
  | ask outcome admitted _ ih => exact .ask outcome admitted (ih ended)

theorem Steps.trans {final : Prog ν κ χ ρ ε α} {last : Tree ν κ}
    (steps : Steps env prog tree prog' tree') (further : Steps env prog' tree' final last) :
    Steps env prog tree final last := by
  induction steps with
  | refl => exact further
  | ask outcome admitted _ ih => exact .ask outcome admitted (ih further)

/-- The steps of a program are steps of what goes on after it. -/
theorem Steps.bind (steps : Steps env prog tree prog' tree') :
    Steps env (prog.bind rest) tree (prog'.bind rest) tree' := by
  induction steps with
  | refl => exact .refl
  | ask outcome admitted _ ih => exact .ask outcome admitted ih

theorem Steps.attempt (steps : Steps env prog tree prog' tree') :
    Steps env prog.attempt tree prog'.attempt tree' := by
  induction steps with
  | refl => exact .refl
  | ask outcome admitted _ ih => exact .ask outcome admitted ih

theorem Steps.any (steps : Steps env prog tree prog' tree') :
    Steps anyOutcome prog tree prog' tree' := by
  induction steps with
  | refl => exact .refl
  | ask outcome _ _ ih => exact .ask outcome trivial ih

theorem Runs.attempt (runs : Runs env prog tree result tree') :
    Runs env prog.attempt tree (.ok result) tree' := by
  induction runs with
  | ret | fail => exact .ret
  | ask outcome admitted _ ih => exact .ask outcome admitted ih

/-! ## Runs of single operations -/

section Operations

variable {path : List ν}

theorem runs_ask {op : Op ν κ χ} {next : op.Reply ρ → Prog ν κ χ ρ ε α} {reply : op.Reply ρ}
    (outcome : Outcome ν κ ρ) {changed : Tree ν κ} (direct : op.Direct tree)
    (replied : op.reply outcome tree = reply) (effect : op.effect outcome tree = changed)
    (runs : Runs linkFree (next reply) changed result tree') :
    Runs linkFree (ask op next) tree result tree' := by
  apply Runs.ask outcome direct
  rwa [replied, effect]

section Reading

variable (answer : ρ) (direct : tree.Direct true path)

include answer direct

theorem runs_stat_of_dir (dir : tree.lookup path = some .dir) :
    Runs linkFree (stat path : Prog ν κ χ ρ ε _) tree (.ok (.ok true)) tree := by
  apply runs_ask { answer := answer } _ _ rfl .ret
  · exact direct
  · simp only [Op.reply, Op.answer, Tree.answerAt_of_direct direct, dir]
    rfl

variable (absent : tree.lookup path = none)

include absent

theorem runs_stat_of_absent :
    Runs linkFree (stat path : Prog ν κ χ ρ ε _) tree (.ok (.error .notExist)) tree := by
  apply runs_ask { answer := answer } _ _ rfl .ret
  · exact direct
  · simp only [Op.reply, Op.answer, Tree.answerAt_of_direct direct, absent]
    rfl

theorem runs_readDir_of_absent :
    Runs linkFree (readDir path : Prog ν κ χ ρ ε _) tree (.ok (.error .notExist)) tree := by
  apply runs_ask { answer := answer } _ _ rfl .ret
  · exact direct
  · simp only [Op.reply, Op.answer, Tree.answerAt_of_direct direct, absent]
    rfl

end Reading

variable {wrap : Errno → ε}

theorem runs_mkdirAll (answer : ρ) (direct : tree.Direct true path)
    (free : tree.blocked path = false) :
    Runs linkFree (mkdirAll wrap path : Prog ν κ χ ρ ε _) tree (.ok ()) (tree.mkdirs path) := by
  have replied : (Op.mkdirAll path : Op ν κ χ).reply { answer := answer } tree = .ok () := by
    simp only [Op.reply, Op.answer, free]
    rfl
  have effect : (Op.mkdirAll path : Op ν κ χ).effect { answer := answer } tree =
      tree.mkdirs path := by
    simp [Op.effect, Op.success, free, Tree.changeAt_of_direct direct]
  exact runs_ask { answer := answer } direct replied effect .ret

theorem runs_removeAll (answer : ρ) (direct : tree.Direct false path) :
    Runs linkFree (removeAll wrap path : Prog ν κ χ ρ ε _) tree (.ok ())
      (tree.removeAll path) := by
  have replied : (Op.removeAll path : Op ν κ χ).reply { answer := answer } tree = .ok () :=
    Tree.answerAt_of_direct direct _
  have effect : (Op.removeAll path : Op ν κ χ).effect { answer := answer } tree =
      tree.removeAll path := by
    simp only [Op.effect, Op.success, Tree.changeAt_of_direct direct]
  exact runs_ask { answer := answer } direct replied effect .ret

theorem runs_request {roots : List (List ν)} {what : χ} (answer : ρ)
    (direct : ∀ root ∈ roots, tree.Direct true root)
    (changes : List (List ν × Option (Entry ν κ))) :
    Runs linkFree (request wrap roots what : Prog ν κ χ ρ ε _) tree (.ok answer)
      (tree.patch (Tree.permits roots) changes) := by
  have effect : (Op.request roots what : Op ν κ χ).effect
      { answer := answer, changes := changes } tree = tree.patch (Tree.permits roots) changes := by
    simp only [Op.effect, Op.success, Tree.rootsAt_of_direct direct]
  exact runs_ask { answer := answer, changes := changes } direct rfl effect .ret

end Operations

variable {roots : List (List ν)}

omit [DecidableEq ν] in
/-- A program below some roots is one below the roots above them. -/
theorem Issues.widen {wider : List (List ν)} (issues : prog.Issues (Within roots))
    (covered : ∀ root ∈ roots, ∃ above ∈ wider, above <+: root) : prog.Issues (Within wider) :=
  issues.mono fun _ within => within.mono covered

omit [DecidableEq ν] in
/-- A program below some roots spares what lies apart from them. -/
theorem Issues.spares (issues : prog.Issues (Within roots))
    (apart : ∀ path, paths path → ∀ root ∈ roots, Apart root path) : prog.Issues (Spares paths) :=
  issues.mono fun _ within => within.spares apart

omit [DecidableEq ν] in
/-- A program below some roots preserves what lies outside them. -/
theorem Issues.preserves (issues : prog.Issues (Within roots))
    (outside : ∀ path, paths path → ∀ root ∈ roots, ¬root <+: path) :
    prog.Issues (Preserves paths) :=
  issues.mono fun _ within => within.preserves outside

/-- A program that preserves paths keeps what exists there. -/
theorem Issues.kept_of_steps (issues : prog.Issues (Preserves paths))
    (steps : Steps linkFree prog tree prog' tree') : Kept paths tree tree' := by
  induction steps with
  | refl => exact .refl _
  | ask outcome direct _ ih =>
    cases issues with
    | ask preserves rest => exact (preserves.kept direct outcome).trans (ih (rest _))

end Prog

/-! ## Pools -/

/-- Programs over one tree. -/
structure Pool (ν κ χ ρ ε : Type) where
  tree : Tree ν κ
  threads : List (Prog ν κ χ ρ ε Unit)

namespace Pool

/-- The events of a pool whose programs are named by commands `γ`. -/
inductive Event (ν κ ρ γ : Type)
  | start (command : γ)
  /-- A thread performs its next operation. -/
  | move (thread : Nat) (outcome : Outcome ν κ ρ)
  /-- All threads are gone; the tree stays. -/
  | crash

/-- One operation of a thread. -/
def advance (pool : Pool ν κ χ ρ ε) (thread : Nat) (outcome : Outcome ν κ ρ) :
    Prog ν κ χ ρ ε Unit → Option (Pool ν κ χ ρ ε)
  | .ask op next =>
    some
      { tree := op.effect outcome pool.tree
        threads := pool.threads.set thread (next (op.reply outcome pool.tree)) }
  | _ => none

/-- One event of a pool. -/
def step (program : γ → Prog ν κ χ ρ ε Unit) : Step (Pool ν κ χ ρ ε) (Event ν κ ρ γ)
  | pool, .start command => some { pool with threads := pool.threads ++ [program command] }
  | pool, .move thread outcome => (pool.threads[thread]?).bind (pool.advance thread outcome)
  | pool, .crash => some { pool with threads := [] }

/-- What an event does to a pool. -/
inductive Changes (program : γ → Prog ν κ χ ρ ε Unit) (pool : Pool ν κ χ ρ ε) :
    Event ν κ ρ γ → Pool ν κ χ ρ ε → Prop
  | start {command} :
      Changes program pool (.start command)
        { pool with threads := pool.threads ++ [program command] }
  | move {thread outcome op}
      {next : op.Reply ρ → Prog ν κ χ ρ ε Unit} : pool.threads[thread]? = some (.ask op next) →
      Changes program pool (.move thread outcome)
        { tree := op.effect outcome pool.tree
          threads := pool.threads.set thread (next (op.reply outcome pool.tree)) }
  | crash : Changes program pool .crash { pool with threads := [] }

variable {program : γ → Prog ν κ χ ρ ε Unit}

theorem changes {pool pool' : Pool ν κ χ ρ ε}
    {event : Event ν κ ρ γ} (moved : step program pool event = some pool') :
    Changes program pool event pool' := by
  cases event with
  | start =>
    cases moved
    exact .start
  | crash =>
    cases moved
    exact .crash
  | move =>
    rcases Option.bind_eq_some_iff.mp moved with ⟨prog, found, advanced⟩
    cases prog with
    | ret | fail => cases advanced
    | ask =>
      cases advanced
      exact .move found

/-- The next operation of a thread is not led through a link. -/
def Direct (pool : Pool ν κ χ ρ ε) (thread : Nat) : Prop :=
  ∀ op next, pool.threads[thread]? = some (.ask op next) → op.Direct pool.tree

/-- The program of every command that is started meets `ok`, and no operation is led
through a link. -/
def StartsOnly (program : γ → Prog ν κ χ ρ ε Unit) (ok : Op ν κ χ → Prop) :
    Discipline (Pool ν κ χ ρ ε) (Event ν κ ρ γ)
  | _, .start command => (program command).Issues ok
  | pool, .move thread _ => pool.Direct thread
  | _, .crash => True

/-- Every command that is started meets `ok`, and no operation is led through a link. -/
def Starts (ok : γ → Prop) : Discipline (Pool ν κ χ ρ ε) (Event ν κ ρ γ)
  | _, .start command => ok command
  | pool, .move thread _ => pool.Direct thread
  | _, .crash => True

variable {ok : γ → Prop}

/-- A thread alone runs as its program does. -/
theorem reaches_of_thread {prog prog' : Prog ν κ χ ρ ε Unit} {tree tree' : Tree ν κ}
    (steps : Prog.Steps Prog.linkFree prog tree prog' tree') :
    Reaches (step program) (Starts ok) { tree := tree, threads := [prog] }
      { tree := tree', threads := [prog'] } := by
  induction steps with
  | refl => exact .refl
  | ask outcome direct _ ih =>
    apply Reaches.trans _ ih
    refine .tail .refl ?_ (rfl : step program _ (.move 0 outcome) = _)
    rintro _ _ ⟨⟩
    exact direct

/-- A command alone runs as its program does. -/
theorem reaches_of_steps {command : γ} {prog : Prog ν κ χ ρ ε Unit} {tree tree' : Tree ν κ}
    (starts : ok command) (steps : Prog.Steps Prog.linkFree (program command) tree prog tree') :
    Reaches (step program) (Starts ok) { tree := tree, threads := [] }
      { tree := tree', threads := [prog] } := by
  have started : step program { tree := tree, threads := [] } (.start command) =
      some { tree := tree, threads := [program command] } := rfl
  exact (Reaches.single started starts).trans (reaches_of_thread steps)

/-- A command alone, with given outcomes. -/
theorem reaches_of_exec (command : γ) (outcomes : List (Outcome ν κ ρ)) (tree : Tree ν κ)
    (starts : ok command) (direct : (program command).direct outcomes tree = true) :
    Reaches (step program) (Starts ok) { tree := tree, threads := [] }
      { tree := ((program command).exec outcomes tree).2
        threads := [((program command).exec outcomes tree).1] } :=
  reaches_of_steps starts (Prog.steps_exec direct)

/-- All threads meet `ok` when all programs started do. -/
theorem issues_of_changes {ok : Op ν κ χ → Prop}
    {pool pool' : Pool ν κ χ ρ ε} {event : Event ν κ ρ γ}
    (all : ∀ prog ∈ pool.threads, prog.Issues ok) (starts : StartsOnly program ok pool event)
    (changed : Changes program pool event pool') : ∀ prog ∈ pool'.threads, prog.Issues ok := by
  cases changed with
  | start =>
    exact forall_mem_append.mpr ⟨all, forall_mem_singleton.mpr starts⟩
  | move found =>
    intro prog member
    rcases mem_or_eq_of_mem_set member with old | rfl
    · exact all prog old
    · cases all _ (mem_of_getElem? found) with
      | ask _ rest => exact rest _
  | crash =>
    rintro _ ⟨⟩

/-- A pool of programs that all spare paths leaves them alone. -/
theorem agree_of_reaches {paths : List ν → Prop} {source target : Pool ν κ χ ρ ε}
    (reached : Reaches (step program) (StartsOnly program (Spares paths)) source target)
    (all : ∀ prog ∈ source.threads, prog.Issues (Spares paths)) :
    Agree paths source.tree target.tree ∧ ∀ prog ∈ target.threads, prog.Issues (Spares paths) := by
  induction reached with
  | refl => exact ⟨.refl _, all⟩
  | tail _ starts moved ih =>
    have changed := changes moved
    refine ⟨ih.1.trans ?_, issues_of_changes ih.2 starts changed⟩
    cases changed with
    | start | crash => exact .refl _
    | move found =>
      cases ih.2 _ (mem_of_getElem? found) with
      | ask spares _ => exact spares.agree (starts _ _ found) _

/-- A pool that starts only commands that spare paths leaves them alone. -/
theorem agree_of_starts {paths : List ν → Prop} {source target : Pool ν κ χ ρ ε}
    (spares : ∀ command, ok command → (program command).Issues (Spares paths))
    (reached : Reaches (step program) (Starts ok) source target)
    (idle : source.threads = []) : Agree paths source.tree target.tree := by
  have disciplined : Reaches (step program) (StartsOnly program (Spares paths)) source target := by
    apply reached.mono
    intro pool event started
    cases event with
    | start command => exact spares command started
    | move => exact started
    | crash => trivial
  apply (agree_of_reaches disciplined _).1
  rw [idle]
  exact nofun

end Pool

end LubricantNodes.Files
