import Mathlib.Data.Prod.Lex
import LubricantNodes.Transition.Fair
import LubricantNodes.Execution.Coherence
import LubricantNodes.Execution.Output

/-!
# Runs that drain

Before it reports its result a run waits in `queue.drain` for a flusher to
deliver its output.  A flusher whose context is done gives up on the first emit
that fails and leaves the queue open, so a run can be left waiting for nobody;
`restartRuntime` and `delete` cancel the run first and then wait for it.

As long as a flusher gives up only when the queue is closed or another flusher
is alive, no run is left waiting, and once the editor has exited and upstream
is back every run ends.
-/

namespace LubricantNodes.Execution

open Transition List Flusher OutputQueue

/-- How far a flusher is from its next pop. -/
def Flusher.phase : Flusher → Nat
  | delivered => 0
  | holding _ => 1
  | top => 2
  | _ => 3

namespace OutputQueue

/-! ## A queue that is attended to -/

/-- Executions in which a flusher gives up only when the queue is closed or
another flusher is alive. -/
def Covered : Discipline OutputQueue Event
  | queue, .flush index .giveUp =>
    queue.closed = true ∨ ∃ other, other ≠ index ∧ (queue.flusher other).alive = true
  | _, _ => True

/-- Once a flusher was started, the queue is closed or some flusher is alive. -/
def Attended (queue : OutputQueue) : Prop :=
  ∀ index, queue.flusher index ≠ .absent →
    queue.closed = true ∨ ∃ other, (queue.flusher other).alive = true

variable {index : Nat} {queue : OutputQueue} {action : FlushAction} {event : Event}

variable {queue' : OutputQueue}

theorem attended_flush (covered : Covered queue (.flush index action))
    (step : queue.flush index action = some queue') : Attended queue' := by
  intro _ _
  cases flushes step with
  | exit _ _ closed => exact .inl closed
  | giveUp =>
    rcases covered with closed | ⟨other, different, alive⟩
    · exact .inl closed
    · refine .inr ⟨other, ?_⟩
      rw [setFlusher_flusher, if_neg different]
      exact alive
  | panic emitted => exact .inr ⟨index, by simp [emitted, alive]⟩
  | hold | deliver | fail | retry | pop => exact .inr ⟨index, by simp [alive]⟩

theorem attended_of_reaches (reached : Reaches step Covered new queue) : Attended queue := by
  refine reached.invariant (fun _ started => absurd rfl started) ?_
  intro queue event queue' _ attended covered step
  cases event with
  | start started =>
    obtain ⟨-, rfl⟩ := guarded_eq_some_iff.mp step
    exact fun _ _ => .inr ⟨started, by simp [alive]⟩
  | append =>
    cases step
    exact attended
  | flush => exact attended_flush covered step
  | stop =>
    cases step
    exact fun _ _ => .inl rfl

/-! ## A flusher at work -/

/-- What a flusher has left to do when nothing is appended any more. -/
def load (queue : OutputQueue) (index : Nat) : Nat :=
  3 * queue.items.length + (queue.flusher index).phase

/-- A flusher that is not waiting for upstream works through the queue. -/
theorem load_lt_of_flush (step : queue.flush index action = some queue')
    (busy : queue.items ≠ []) (before : ∀ chunk, queue.flusher index ≠ .backoff chunk)
    (after : ∀ chunk, queue'.flusher index ≠ .backoff chunk) :
    (queue'.flusher index).alive = true ∧ queue'.load index < queue.load index := by
  cases flushes step with
  | exit _ empty | panic _ empty => exact absurd empty busy
  | hold top => simp [load, top, phase, alive]
  | deliver held => simp [load, held, phase, alive]
  | @fail chunk => exact absurd (by simp) (after chunk)
  | retry waiting | giveUp waiting => exact absurd waiting (before _)
  | pop emitted items =>
    simp [load, emitted, items, phase, alive]
    omega

/-- Nothing else makes more work for a flusher when nothing is appended. -/
theorem load_le_of_step (step : queue.step event = some queue')
    (alive : (queue.flusher index).alive = true) (silent : queue'.appended = queue.appended)
    (other : ∀ action, event ≠ .flush index action) :
    (queue'.flusher index).alive = true ∧ queue'.load index ≤ queue.load index := by
  cases event with
  | start started =>
    obtain ⟨absent, rfl⟩ := guarded_eq_some_iff.mp step
    have different : index ≠ started := by
      rintro rfl
      rw [absent] at alive
      contradiction
    simp [load, different, alive]
  | append =>
    cases step
    simp [append] at silent
  | flush moved action =>
    have different : index ≠ moved := by
      rintro rfl
      exact other action rfl
    cases flushes step with
    | pop _ items =>
      constructor
      · simp [different, alive]
      · simp only [load, setFlusher_flusher, if_neg different, items, length_cons]
        omega
    | _ => simp [load, different, alive]
  | stop =>
    cases step
    exact ⟨alive, Nat.le_refl _⟩

/-- A queue that is drained stays so when nothing is appended. -/
theorem drained_of_step (step : queue.step event = some queue')
    (silent : queue'.appended = queue.appended)
    (drained : queue.drained = true) : queue'.drained = true := by
  cases event with
  | start =>
    obtain ⟨-, rfl⟩ := guarded_eq_some_iff.mp step
    exact drained
  | append =>
    cases step
    simp [append] at silent
  | flush =>
    cases flushes step with
    | pop _ items =>
      have closed : queue.closed = true := by simpa [OutputQueue.drained, items] using drained
      simp [OutputQueue.drained, closed]
    | _ => exact drained
  | stop =>
    cases step
    simp [OutputQueue.drained]

end OutputQueue

/-- The steps of `reportInputFailure` a goroutine has left. -/
def Reporter.left (reporter : Reporter) : Nat :=
  2 * reporter.todo.length + if reporter.released then 0 else 1

namespace Session

/-! ## No run is stuck -/

/-- A flusher gives up only when the queue is closed or another flusher of it
is alive. -/
def givesUpCovered (session : Session) : SessionEvent → Bool
  | .flush index .giveUp =>
    session.queue.closed || (List.range session.life.launched).any fun other =>
      other ≠ index && (session.queue.flusher other).alive
  | _ => true

/-- A run is blocked in `queue.drain` and no flusher is left. -/
def Stuck (session : Session) (index : Nat) : Prop :=
  (session.life.run index).pc = .draining ∧ session.queue.items ≠ [] ∧
    session.queue.closed = false ∧
    ∀ other < session.life.launched, (session.queue.flusher other).alive = false

instance (session : Session) (index : Nat) : Decidable (Stuck session index) :=
  inferInstanceAs (Decidable (_ ∧ _ ∧ _ ∧ _))

variable {session : Session} {event : SessionEvent}

theorem reaches_covered {spec : CreateSession}
    (reached : Reaches step (checked givesUpCovered) (new spec) session) :
    Reaches OutputQueue.step OutputQueue.Covered .new session.queue := by
  refine reaches_queue (reached.mono ?_)
  intro session event covered queueEvent taken
  cases queueEvent with
  | flush index action =>
    rw [output_eq_flush_iff] at taken
    subst taken
    cases action with
    | giveUp =>
      simp only [checked, givesUpCovered, Bool.or_eq_true, any_eq_true, mem_range,
        Bool.and_eq_true, decide_eq_true_eq] at covered
      rcases covered with closed | ⟨other, -, different, alive⟩
      · exact .inl closed
      · exact .inr ⟨other, different, alive⟩
    | peek | emit | retry | pop => trivial
  | start | append | stop => trivial

variable {index : Nat}

/-- A run in `queue.drain` has started its flusher. -/
theorem Indexed.begun_of_draining (indexed : Indexed session)
    (draining : (session.life.run index).pc = .draining) :
    session.queue.flusher index ≠ .absent := by
  rw [ne_eq, indexed.flusher, draining]
  rintro (beyond | launched)
  · have halted := (indexed.unlaunched index beyond).1
    cases draining.symm.trans halted
  · cases launched

theorem not_stuck (indexed : Indexed session) (attended : session.queue.Attended)
    (index : Nat) : ¬Stuck session index := by
  rintro ⟨draining, -, isOpen, none⟩
  rcases attended index (indexed.begun_of_draining draining) with closed | ⟨other, alive⟩
  · rw [isOpen] at closed
    contradiction
  · rw [none other (indexed.lt_of_alive alive)] at alive
    contradiction

/-! ## Every run ends -/

/-- The steps of a run goroutine, its pumps and its process left out. -/
def ofRun (index : Nat) : SessionEvent → Prop
  | .run other action => other = index ∧ action.own = true
  | .report goroutine _ => goroutine = .run index
  | _ => False

/-- The steps of a flusher. -/
def ofFlusher (index : Nat) : SessionEvent → Prop
  | .flush other _ => other = index
  | _ => False

/-- Flushers start alone and give up only when covered. -/
def attends (session : Session) (event : SessionEvent) : Bool :=
  session.startsAlone event && session.givesUpCovered event

/-- The steps a run in `failPendingInputs` has left. -/
def reportsLeft (session : Session) (index : Nat) : Nat :=
  if (session.life.run index).pc = .failing then (session.inbox.reporter (.run index)).left else 0

/-- What a run has left to do. -/
def remaining (session : Session) (index : Nat) : ℕ ×ₗ ℕ :=
  toLex ((session.life.run index).pc.distance, session.reportsLeft index)

/-- From `start` on the editor of a run is gone, nothing is appended to the
queue any more and no flusher is waiting for upstream to come back. -/
structure EditorGone (trace : Trace step (checked attends)) (index start : Nat) : Prop where
  exited : ∀ time, start ≤ time → ((trace.state time).life.run index).alive = false ∧
    (((trace.state time).life.run index).pc = .pumping →
      ((trace.state time).life.run index).stdoutDone = true ∧
        ((trace.state time).life.run index).stderrDone = true)
  silent : ∀ time, start ≤ time →
    (trace.state time).queue.appended = (trace.state start).queue.appended
  upstream : ∀ time, start ≤ time → ∀ other chunk,
    (trace.state time).queue.flusher other ≠ .backoff chunk

variable {goroutine : Goroutine} {session' : Session}

/-- A step of `reportInputFailure` leaves fewer of them. -/
theorem left_lt_of_report {action : ReportAction}
    (step : session.step (.report goroutine action) = some session') :
    (session'.inbox.reporter goroutine).left < (session.inbox.reporter goroutine).left := by
  have moved := (stepped step).inbox
  generalize session'.inbox = inbox at moved ⊢
  cases action with
  | release =>
    change session.inbox.step (.release goroutine) = _ at moved
    cases Inbox.moves moved with
    | skip before | release before => simp [before, Reporter.left]
  | emit =>
    change session.inbox.step (.emit goroutine) = _ at moved
    cases Inbox.moves moved with
    | emit before =>
      simp only [before, Reporter.left, Function.update_self, length_cons, if_true,
        Bool.false_eq_true, if_false]
      omega

section RemainingWork

variable (coherent : Coherent session) (step : session.step event = some session')

include coherent step

/-- While a run is in `failPendingInputs`, only the run itself touches what it
has to report. -/
theorem reporter_of_step
    (failing : (session.life.run index).pc = .failing) (other : ¬ofRun index event) :
    session'.inbox.reporter (.run index) = session.inbox.reporter (.run index) := by
  rcases (stepped step).inbox_cases with same | ⟨taken, fires, moved⟩
  · rw [same]
  have origin := origin_of_input fires
  refine Inbox.reporter_of_step moved ?_ ?_ ?_ fun owned => ?_
  · rintro reason rfl
    rw [show event = .run index .sweep from origin] at other
    exact other ⟨rfl, rfl⟩
  · rintro rfl
    rw [show event = .report (.run index) .release from origin] at other
    exact other rfl
  · rintro rfl
    rw [show event = .report (.run index) .emit from origin] at other
    exact other rfl
  · cases failing.symm.trans (coherent.draining index owned)

/-- Every step of a run past its first drain leaves it less to do. -/
theorem remaining_lt
    (pumping : (session.life.run index).pc.distance ≤ 11) (own : ofRun index event) :
    session'.remaining index < session.remaining index := by
  cases event with
  | run =>
    obtain ⟨rfl, own⟩ := own
    exact Prod.Lex.toLex_lt_toLex.mpr (.inl ((flow_of_run_step step).distance_lt own pumping))
  | report goroutine action =>
    obtain rfl : goroutine = .run index := own
    have failing : (session.life.run index).pc = .failing := by
      rcases coherent.pc_of_report step with failing | handing
      · exact failing
      · rw [handing] at pumping
        contradiction
    have same : session'.life = session.life := (Option.some.inj (stepped step).life).symm
    refine Prod.Lex.toLex_lt_toLex.mpr (.inr ⟨by rw [same], ?_⟩)
    simp only [reportsLeft, same, failing, if_true]
    exact left_lt_of_report step
  | _ => exact own.elim

/-- No other step gives the run more to do. -/
theorem remaining_eq (indexed : Indexed session)
    (running : (session.life.run index).pc ≠ .done) (other : ¬ofRun index event) :
    session'.remaining index = session.remaining index := by
  have pcEq : (session'.life.run index).pc = (session.life.run index).pc := by
    cases indexed.pc_change step index with
    | kept _ same => exact same
    | flow taken flow =>
      subst taken
      exact flow.eq_of_not_own (eq_false_of_ne_true fun own => other ⟨rfl, own⟩)
    | launched _ _ halted _ => exact absurd halted running
  have leftEq : session'.reportsLeft index = session.reportsLeft index := by
    unfold reportsLeft
    rw [pcEq]
    split_ifs with failing
    · rw [reporter_of_step coherent step failing other]
    · rfl
  rw [remaining, remaining, pcEq, leftEq]

end RemainingWork

/-- The run is past its first drain, not done, and does not wait for the queue. -/
def Free (session : Session) (index : Nat) : Prop :=
  (session.life.run index).pc.distance ≤ 11 ∧ (session.life.run index).pc ≠ .done ∧
    ((session.life.run index).pc = .draining → session.queue.drained = true)

section Enabled

variable (sound : session.queue.panicked = false)

include sound

theorem enabled_of_run (action : Run.Action) (own : action.own = true)
    (isReady : session.ready (.run index action) = true)
    (moves : ((session.life.run index).step (session.life.ctxDone index) action).isSome)
    (queue : (optional OutputQueue.step session.queue (output (.run index action))).isSome)
    (inbox : (optional Inbox.step session.inbox (session.input (.run index action))).isSome) :
    Trace.Enabled step (ofRun index) session := by
  refine ⟨.run index action, ⟨rfl, own⟩, isSome_step sound isReady ?_ queue inbox⟩
  obtain ⟨run, moved⟩ := Option.isSome_iff_exists.mp moves
  simp [Lifecycle.step, moved]

/-- A goroutine with failures to report can report them. -/
theorem exists_report (busy : (session.inbox.reporter goroutine).todo ≠ []) :
    ∃ action, (session.step (.report goroutine action)).isSome := by
  obtain ⟨⟨ticket, reason⟩, rest, todo⟩ := exists_cons_of_ne_nil busy
  cases released : (session.inbox.reporter goroutine).released with
  | true =>
    refine ⟨.emit, isSome_step sound rfl rfl rfl ?_⟩
    simp [input, Inbox.step, Inbox.emit, todo, released]
  | false =>
    refine ⟨.release, isSome_step sound rfl rfl rfl ?_⟩
    simp only [input, optional_some, Inbox.step, Inbox.release, todo, released]
    split_ifs <;> rfl

end Enabled

/-- What holds of a session from the time on at which the editor of a run
is gone. -/
structure AfterExit (index : Nat) (chunks : List QueuedChunk) (session : Session) : Prop where
  indexed : Indexed session
  coherent : Coherent session
  sound : session.queue.panicked = false
  attended : session.queue.Attended
  dead : (session.life.run index).alive = false
  pumped : (session.life.run index).pc = .pumping →
    (session.life.run index).stdoutDone = true ∧ (session.life.run index).stderrDone = true
  silent : session.queue.appended = chunks
  upstream : ∀ other chunk, session.queue.flusher other ≠ .backoff chunk

/-- The run is past `queue.drain`, or `queue.drain` is about to return. -/
def Unblocked (session : Session) (index : Nat) : Prop :=
  (session.life.run index).pc.distance ≤ 9 ∧
    ((session.life.run index).pc = .draining → session.queue.drained = true)

theorem items_ne_nil_of_not_unblocked (draining : (session.life.run index).pc = .draining)
    (blocked : ¬Unblocked session index) : session.queue.items ≠ [] := by
  intro empty
  exact blocked ⟨by simp [draining, RunPc.distance], fun _ => by simp [drained, empty]⟩

theorem Indexed.draining_of_step (indexed : Indexed session)
    (step : session.step event = some session')
    (draining : (session.life.run index).pc = .draining) :
    (session'.life.run index).pc = .draining ∨ Unblocked session' index := by
  cases indexed.pc_change step index with
  | kept _ same => exact .inl (same.trans draining)
  | flow _ flow =>
    rw [draining] at flow
    refine flow.of_draining.imp_right fun reporting => ?_
    simp [Unblocked, reporting, RunPc.distance]
  | launched _ _ halted _ => cases draining.symm.trans halted

section ProgressAfterExit

variable {chunks : List QueuedChunk} {flusher : Nat} (afterExit : AfterExit index chunks session)

include afterExit

/-- A run past its first drain can move, unless it waits for the queue or is done. -/
theorem enabled_ofRun (free : session.Free index) : Trace.Enabled step (ofRun index) session := by
  obtain ⟨pumping, running, drained⟩ := free
  have enabled := @enabled_of_run session index afterExit.sound
  cases pc : (session.life.run index).pc with
  | launched | preparing | spawning | booting | spawned | handing =>
    rw [pc] at pumping
    contradiction
  | pumping =>
    exact enabled .join rfl rfl (by simp [Run.step, guarded, pc, afterExit.pumped pc]) rfl rfl
  | waiting =>
    refine enabled (.wait 0 none false) rfl rfl ?_ rfl ?_
    · simp [Run.step, guarded, pc, afterExit.dead]
    simp only [input, runInput]
    split_ifs <;> rfl
  | draining => exact enabled .drained rfl (drained pc) (by simp [Run.step, guarded, pc]) rfl rfl
  | reporting | notifying => exact enabled .report rfl rfl (by simp [Run.step, pc]) rfl rfl
  | sweeping => exact enabled .sweep rfl rfl (by simp [Run.step, guarded, pc]) rfl rfl
  | failing =>
    by_cases empty : (session.inbox.reporter (.run index)).todo = []
    · exact enabled .swept rfl (by simp [ready, empty]) (by simp [Run.step, guarded, pc]) rfl rfl
    · obtain ⟨action, isSome⟩ := exists_report afterExit.sound empty
      exact ⟨.report (.run index) action, rfl, isSome⟩
  | marking => exact enabled .mark rfl rfl (by simp [Run.step, guarded, pc]) rfl rfl
  | cleaning => exact enabled (.clean false) rfl rfl (by simp [Run.step, guarded, pc]) rfl rfl
  | stopping => exact enabled .stopQueue rfl rfl (by simp [Run.step, guarded, pc]) rfl rfl
  | closing => exact enabled .close rfl rfl (by simp [Run.step, guarded, pc]) rfl rfl
  | done => exact absurd pc running

/-- A flusher that is alive can move while there is something queued. -/
theorem enabled_ofFlusher (alive : (session.queue.flusher flusher).alive = true)
    (busy : session.queue.items ≠ []) : Trace.Enabled step (ofFlusher flusher) session := by
  obtain ⟨head, rest, items⟩ := exists_cons_of_ne_nil busy
  cases place : session.queue.flusher flusher with
  | absent | exited =>
    rw [place] at alive
    contradiction
  | top =>
    refine ⟨.flush flusher .peek, rfl, isSome_step afterExit.sound rfl rfl ?_ rfl⟩
    simp [output, OutputQueue.step, OutputQueue.flush, place, items]
  | holding =>
    refine ⟨.flush flusher (.emit true), rfl, isSome_step afterExit.sound rfl rfl ?_ rfl⟩
    simp [output, OutputQueue.step, OutputQueue.flush, place]
  | backoff chunk => exact absurd place (afterExit.upstream flusher chunk)
  | delivered =>
    refine ⟨.flush flusher .pop, rfl, isSome_step afterExit.sound rfl rfl ?_ rfl⟩
    simp [output, OutputQueue.step, OutputQueue.flush, place, items]

variable (afterExit' : AfterExit index chunks session') (step : session.step event = some session')

include afterExit' step

/-- A flusher at work keeps at it while there is something queued. -/
theorem load_of_step (alive : (session.queue.flusher flusher).alive = true)
    (busy : session.queue.items ≠ []) :
    (session'.queue.flusher flusher).alive = true ∧
      session'.queue.load flusher ≤ session.queue.load flusher ∧
      (ofFlusher flusher event → session'.queue.load flusher < session.queue.load flusher) := by
  by_cases own : ofFlusher flusher event
  · cases event with
    | flush moved action =>
      obtain rfl : moved = flusher := own
      obtain ⟨alive, fewer⟩ := load_lt_of_flush (stepped step).queue busy
        (afterExit.upstream moved) (afterExit'.upstream moved)
      exact ⟨alive, fewer.le, fun _ => fewer⟩
    | _ => exact own.elim
  · rcases (stepped step).queue_cases with same | ⟨taken, fires, moved⟩
    · rw [same]
      exact ⟨alive, le_refl _, fun flushes => absurd flushes own⟩
    · have other : ∀ action, taken ≠ .flush flusher action := by
        rintro action rfl
        rw [output_eq_flush_iff.mp fires] at own
        exact own rfl
      have silent := afterExit'.silent.trans afterExit.silent.symm
      obtain ⟨alive, fewer⟩ := load_le_of_step moved alive silent other
      exact ⟨alive, fewer, fun flushes => absurd flushes own⟩

theorem unblocked_of_step (unblocked : Unblocked session index)
    (closer : (session'.life.run index).pc.distance ≤ (session.life.run index).pc.distance) :
    Unblocked session' index := by
  obtain ⟨close, drained⟩ := unblocked
  refine ⟨closer.trans close, fun draining => ?_⟩
  rw [draining] at closer
  have before := drained (RunPc.eq_draining_of_distance (le_antisymm close closer))
  rcases (stepped step).queue_cases with same | ⟨taken, -, moved⟩
  · rwa [same]
  · exact drained_of_step moved (afterExit'.silent.trans afterExit.silent.symm) before

end ProgressAfterExit

/-! ### Along a trace -/

section Along

variable {trace : Trace step (checked attends)} {start : Nat}

section Always

variable {chunks : List QueuedChunk}
  (always : ∀ time, start ≤ time → AfterExit index chunks (trace.state time))

include always

/-- A run that does not wait for the queue gets ahead. -/
theorem eventually_of_run (fair : trace.Fair (ofRun index)) {P Q : Session → Prop}
    (free : ∀ {session}, P session → ¬Q session → session.Free index)
    (keeps : ∀ {session event session'},
      AfterExit index chunks session → AfterExit index chunks session' →
      session.step event = some session' → P session →
        (session'.life.run index).pc.distance ≤ (session.life.run index).pc.distance → P session')
    (holds : P (trace.state start)) : ∃ time, start ≤ time ∧ Q (trace.state time) := by
  refine fair.eventually always (r := fun session => session.remaining index) ?_ ?_ holds
  · intro session afterExit before notYet
    exact enabled_ofRun afterExit (free before notYet)
  · intro session event session' afterExit afterExit' before notYet step
    obtain ⟨close, running, -⟩ := free before notYet
    have lower := remaining_lt afterExit.coherent step close
    have fewer : session'.remaining index ≤ session.remaining index := by
      by_cases own : ofRun index event
      · exact (lower own).le
      · exact (remaining_eq afterExit.coherent step afterExit.indexed running own).le
    refine ⟨fewer, lower, fun _ => keeps afterExit afterExit' step before ?_⟩
    exact (Prod.Lex.toLex_le_toLex.mp fewer).elim Nat.le_of_lt fun same => same.1.le

/-- The run gets to `queue.drain`. -/
theorem eventually_draining (fair : trace.Fair (ofRun index))
    (pumping : ((trace.state start).life.run index).pc.distance ≤ 11) :
    ∃ time, start ≤ time ∧ ((trace.state time).life.run index).pc.distance ≤ 9 := by
  refine eventually_of_run always fair
    (P := fun session => (session.life.run index).pc.distance ≤ 11)
    (Q := fun session => (session.life.run index).pc.distance ≤ 9) ?_ ?_ pumping
  · intro session close far
    refine ⟨close, fun done => far ?_, fun draining => absurd ?_ far⟩
    · simp [done, RunPc.distance]
    · simp [draining, RunPc.distance]
  · exact fun _ _ _ close closer => closer.trans close

theorem eventually_unblocked {flusher : Nat} (fair : trace.Fair (ofFlusher flusher))
    (draining : ((trace.state start).life.run index).pc = .draining)
    (alive : ((trace.state start).queue.flusher flusher).alive = true) :
    ∃ time, start ≤ time ∧ Unblocked (trace.state time) index := by
  refine fair.eventually always (P := fun session => (session.life.run index).pc = .draining ∧
      (session.queue.flusher flusher).alive = true) (Q := fun session => Unblocked session index)
    (r := fun session => session.queue.load flusher) ?_ ?_ ⟨draining, alive⟩
  · rintro session afterExit ⟨draining, alive⟩ blocked
    exact enabled_ofFlusher afterExit alive (items_ne_nil_of_not_unblocked draining blocked)
  · rintro session event session' afterExit afterExit' ⟨draining, alive⟩ blocked step
    obtain ⟨alive, fewer, lower⟩ := load_of_step afterExit afterExit' step alive
      (items_ne_nil_of_not_unblocked draining blocked)
    refine ⟨fewer, lower, fun blocked => ⟨?_, alive⟩⟩
    exact (afterExit.indexed.draining_of_step step draining).resolve_right blocked

/-- The run waits in `queue.drain` no longer than a flusher takes to empty the
queue. -/
theorem eventually_drained (fair : ∀ flusher, trace.Fair (ofFlusher flusher))
    (close : ((trace.state start).life.run index).pc.distance ≤ 9) :
    ∃ time, start ≤ time ∧ Unblocked (trace.state time) index := by
  by_cases unblocked : Unblocked (trace.state start) index
  · exact ⟨start, le_rfl, unblocked⟩
  have draining : ((trace.state start).life.run index).pc = .draining := by
    by_contra past
    exact unblocked ⟨close, fun draining => absurd draining past⟩
  have afterExit := always start le_rfl
  have begun := afterExit.indexed.begun_of_draining draining
  rcases afterExit.attended index begun with closed | ⟨flusher, alive⟩
  · exact absurd ⟨close, fun _ => by simp [drained, closed]⟩ unblocked
  · exact eventually_unblocked always (fair flusher) draining alive

/-- From there the run goes to its end. -/
theorem eventually_done (fair : trace.Fair (ofRun index))
    (unblocked : Unblocked (trace.state start) index) :
    ∃ time, start ≤ time ∧ ((trace.state time).life.run index).pc = .done := by
  refine eventually_of_run always fair (P := fun session => Unblocked session index)
    (Q := fun session => (session.life.run index).pc = .done) ?_ unblocked_of_step unblocked
  rintro session ⟨close, drained⟩ running
  exact ⟨close.trans (by omega), running, drained⟩

end Always

variable {spec : CreateSession}
  (began : Reaches step (checked attends) (new spec) (trace.state 0))
  (gone : EditorGone trace index start)

include began gone

theorem afterExit_of_gone (time : Nat) (later : start ≤ time) :
    AfterExit index (trace.state start).queue.appended (trace.state time) := by
  have reached := began.trans (trace.reaches time)
  have alone : Reaches step (checked startsAlone) (new spec) (trace.state time) :=
    reached.mono fun _ _ attended => (Bool.and_eq_true_iff.mp attended).1
  have covered : Reaches step (checked givesUpCovered) (new spec) (trace.state time) :=
    reached.mono fun _ _ attended => (Bool.and_eq_true_iff.mp attended).2
  obtain ⟨dead, pumped⟩ := gone.exited time later
  exact ⟨indexed_of_reaches reached, coherent_of_reaches reached,
    (exactlyOnce_of_reaches (reaches_solo alone)).sound,
    OutputQueue.attended_of_reaches (reaches_covered covered), dead, pumped,
    gone.silent time later, gone.upstream time later⟩

/-- The three phases one after the other: to `queue.drain`, through it, and to the end. -/
theorem eventually_done_of_gone (fairRun : trace.Fair (ofRun index))
    (fairFlushers : ∀ flusher, trace.Fair (ofFlusher flusher))
    (pumping : ((trace.state start).life.run index).pc.distance ≤ 11) :
    ∃ time, start ≤ time ∧ ((trace.state time).life.run index).pc = .done := by
  have afterExit := afterExit_of_gone began gone
  obtain ⟨arrival, later, close⟩ := eventually_draining afterExit fairRun pumping
  replace afterExit := fun time after => afterExit time (later.trans after)
  obtain ⟨drained, after, unblocked⟩ := eventually_drained afterExit fairFlushers close
  replace afterExit := fun time beyond => afterExit time (after.trans beyond)
  obtain ⟨goal, beyond, done⟩ := eventually_done afterExit fairRun unblocked
  exact ⟨goal, later.trans (after.trans beyond), done⟩

/-- In a fair execution, a run past its first drain ends once its editor has
exited and upstream is back. -/
theorem run_ends (fairRun : trace.Fair (ofRun index))
    (fairFlushers : ∀ flusher, trace.Fair (ofFlusher flusher))
    (pumping : ((trace.state start).life.run index).pc.distance ≤ 11) :
    ∃ time, start ≤ time ∧ ((trace.state time).life.run index).pc = .done :=
  eventually_done_of_gone began gone fairRun fairFlushers pumping

end Along

/-- The editor of the first run is gone, nothing is appended to its one chunk, and its flusher
is not waiting for upstream. -/
def FirstChunkLeft (session : Session) : Prop :=
  session.life.launched = 1 ∧ (session.life.run 0).alive = false ∧
    (session.life.run 0).pc ≠ .pumping ∧ session.queue.appended = [⟨[65], .stdout, 0, 0⟩] ∧
    match session.queue.flusher 0 with
    | .backoff _ => False
    | _ => True

instance (session : Session) : Decidable (FirstChunkLeft session) := by
  unfold FirstChunkLeft
  cases session.queue.flusher 0 <;> infer_instance

/-- The flusher delivers the chunk, the run tears down, and the flusher finds the queue
closed. -/
def firstRunTornDown : List SessionEvent :=
  [.flush 0 .peek, .flush 0 (.emit true), .flush 0 .pop] ++
    [.drained, .report, .sweep, .swept, .mark, .clean false, .stopQueue].map (.run 0) ++
    [.flush 0 .peek, .run 0 .close]

/-- The first run waits in `queue.drain` for its flusher, and then there is nothing left to
do. -/
theorem run_ends_firstRun : ∃ trace : Trace step (checked attends),
    ((trace.state 0).life.run 0).pc = .draining ∧ (trace.state 0).queue.items ≠ [] ∧
      ((trace.state 0).queue.flusher 0).alive = true ∧
      ∃ time, 0 ≤ time ∧ ((trace.state time).life.run 0).pc = .done := by
  obtain ⟨node, reached, existing, draining, busy, alive, ends⟩ :
      ∃ node, Reaches Node.step (checked (Node.meets attends)) (.new Node.claudeOptions) node ∧
        0 < node.count ∧ ((node.objects 0).life.run 0).pc = .draining ∧
        (node.objects 0).queue.items ≠ [] ∧ ((node.objects 0).queue.flusher 0).alive = true ∧
        ∃ last ∈ executeWith step (fun session event => FirstChunkLeft session ∧
            checked attends session event) (node.objects 0) firstRunTornDown,
          FirstChunkLeft last ∧ (last.life.run 0).pc = .done ∧ last.queue.flusher 0 = .exited :=
    exists_reaches_of_run (Node.firstRunPumping ++
      [.act 0 (.run 0 (.append [65] .stdout 0))] ++ Node.exited 0 0) (by decide +kernel)
  obtain ⟨last, run, left, done, rested⟩ := ends
  obtain ⟨spec, began⟩ := Node.reaches_object reached existing
  obtain ⟨trace, first, keeps, rests⟩ := Trace.exists_of_run firstRunTornDown run left
  rw [← first] at began draining busy alive
  have flusherOf {session : Session} (reached : Reaches step (checked attends) (new spec) session)
      (left : FirstChunkLeft session) (index : Nat) : session.queue.flusher (index + 1) = .absent :=
    ((indexed_of_reaches reached).flusher _).mpr (.inl (by rw [left.1]; omega))
  have gone : EditorGone trace 0 0 := by
    refine ⟨fun time _ => ?_, fun time _ => ?_, fun time _ => ?_⟩
    · exact ⟨(keeps time).2.1, fun pumping => absurd pumping (keeps time).2.2.1⟩
    · exact (keeps time).2.2.2.1.trans (keeps 0).2.2.2.1.symm
    · rintro (_ | other) chunk waits
      · have clear := (keeps time).2.2.2.2
        rw [waits] at clear
        exact clear
      · rw [flusherOf (began.trans (trace.reaches time)) (keeps time)] at waits
        cases waits
  have ended : Reaches step (checked attends) (new spec) last := by
    rw [← rests _ le_rfl]
    exact began.trans (trace.reaches _)
  refine ⟨trace, draining, busy, alive, run_ends began gone ?_ ?_ ?_⟩
  · apply Trace.fair_of_rest rests
    rintro ⟨event, own, isSome⟩
    obtain ⟨target, moved⟩ := Option.isSome_iff_exists.mp isSome
    have fewer := remaining_lt (coherent_of_reaches ended) moved (by rw [done]; decide) own
    simp [remaining, reportsLeft, done, RunPc.distance, Prod.Lex.toLex_lt_toLex] at fewer
  · intro flusher
    apply Trace.fair_of_rest rests
    rintro ⟨event, own, isSome⟩
    obtain ⟨target, moved⟩ := Option.isSome_iff_exists.mp isSome
    cases event with
    | flush index action =>
      have flushed : last.queue.flush index action = some target.queue := (stepped moved).queue
      have idle : last.queue.flusher index = .absent ∨ last.queue.flusher index = .exited := by
        rcases index with _ | index
        · exact .inr rested
        · exact .inl (flusherOf ended left index)
      cases action <;> rcases idle with idle | idle <;>
        simp [OutputQueue.flush, idle] at flushed
    | _ => exact own.elim
  · exact (congrArg RunPc.distance draining).trans_le (by decide)

end Session

namespace Node

/-- No run of the node is left waiting, and each of them ends in every fair execution of its
session, once its editor has exited and upstream is back. -/
theorem not_stuck_and_ends {opts : SessionOptions} {node : Node}
    (reached : Reaches step (checked (meets Session.attends)) (new opts) node)
    {object : Nat} (existing : object < node.count) (index : Nat) :
    ¬(node.objects object).Stuck index ∧
      ∀ trace : Trace Session.step (checked Session.attends), trace.state 0 = node.objects object →
        ∀ start, Session.EditorGone trace index start → trace.Fair (Session.ofRun index) →
          (∀ flusher, trace.Fair (Session.ofFlusher flusher)) →
          ((trace.state start).life.run index).pc.distance ≤ 11 →
          ∃ time, start ≤ time ∧ ((trace.state time).life.run index).pc = .done := by
  obtain ⟨spec, began⟩ := reaches_object reached existing
  constructor
  · have covered : Reaches Session.step (checked Session.givesUpCovered) (.new spec)
        (node.objects object) :=
      began.mono fun _ _ attended => (Bool.and_eq_true_iff.mp attended).2
    exact Session.not_stuck (Session.indexed_of_reaches began)
      (OutputQueue.attended_of_reaches (Session.reaches_covered covered)) index
  · intro trace first start gone
    rw [← first] at began
    exact Session.eventually_done_of_gone began gone

/-- The first run has output queued that upstream did not take. -/
def firstRunBackedUp : List Event :=
  firstRunPumping ++
    [.act 0 (.run 0 (.append [65] .stdout 0)), .act 0 (.flush 0 .peek),
      .act 0 (.flush 0 (.emit false))]

end Node

end LubricantNodes.Execution
