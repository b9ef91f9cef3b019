import LubricantNodes.Execution.Session

/-!
# Coherence of lifecycle and inbox

The lifecycle and the inbox of a session keep separate program counters for the
same goroutines.  This module shows that they agree: whoever holds `drainMu` is
in `drainPending`, whoever has failures to report is in a place that reports
them, and an input is being delivered only during the command that delivers it.
-/

namespace LubricantNodes.Execution

open Transition Inbox

namespace Inbox

variable {inbox inbox' : Inbox} {event : Event}

/-! ## The drain lock -/

/-- `drainMu` changes hands only by being released and locked. -/
theorem owner_of_step (step : inbox.step event = some inbox') :
    inbox'.drainer.owner = inbox.drainer.owner ∨ inbox'.drainer.owner = none ∨
      ∃ goroutine, event = .lock goroutine ∧ inbox'.drainer.owner = some goroutine := by
  cases moves step with
  | lockDispatch | lockRun => exact .inr (.inr ⟨_, rfl, rfl⟩)
  | closeRacing | checkEmpty | checkNoStream | checkDetached | writeDetached | failed =>
    exact .inr (.inl rfl)
  | checkClosed held | checkPop held | deliver held | deliverUnknown held | writeClosed held
  | write held | writeFailed held | reported held =>
    exact .inl (by rw [held]; rfl)
  | _ => exact .inl rfl

/-- Whoever delivers an input holds `drainMu` only in `drainPending`. -/
def Locked (inbox : Inbox) : Prop :=
  inbox.drainer.owner = some .dispatch → inbox.delivery = .draining

theorem locked_step (locked : Locked inbox) (step : inbox.step event = some inbox') :
    Locked inbox' := by
  intro owned
  cases moves step with
  | lockDispatch => rfl
  | lockRun => cases owned
  | closeRacing | checkEmpty | checkNoStream | checkDetached | writeDetached | failed => cases owned
  | checkClosed held | checkPop held | deliver held | deliverUnknown held | writeClosed held
  | write held | writeFailed held | reported held =>
    exact locked (by rw [held]; exact owned)
  | finishDraining _ released => exact absurd owned released
  | arrive before | replay before | reserve before | forward before | reject before
  | enqueue before | ack before | finishRejecting before =>
    rw [locked owned] at before
    cases before
  | _ => exact locked owned

/-! ## Deliveries -/

/-- A delivery begins by the arrival of an input. -/
theorem delivery_of_step (step : inbox.step event = some inbox') :
    inbox'.delivery = .idle ∨ inbox.delivery ≠ .idle ∨ ∃ input, event = .arrive input := by
  cases moves step with
  | arrive => exact .inr (.inr ⟨_, rfl⟩)
  | replay | finishRejecting | finishDraining => exact .inl rfl
  | lockDispatch _ before | reserve before | forward before | reject before | enqueue before
  | ack before =>
    exact .inr (.inl (by simp [before]))
  | _ =>
    by_cases idle : inbox.delivery = .idle
    · exact .inl idle
    · exact .inr (.inl idle)

/-! ## Reports -/

@[simp]
theorem fail_todo (inbox : Inbox) (goroutine other : Goroutine) (tickets : List Nat)
    (reason : FailReason) :
    ((inbox.fail goroutine tickets reason).reporter other).todo =
      if other = goroutine then
        (inbox.reporter goroutine).todo ++ tickets.map fun ticket => (ticket, reason)
      else (inbox.reporter other).todo := by
  by_cases same : other = goroutine
  · subst same
    simp [fail]
  · simp [fail, same]

variable {goroutine : Goroutine}

/-- A goroutine comes to have failures to report by sweeping the queue, by
rejecting an input or in the drain loop. -/
theorem todo_of_step (step : inbox.step event = some inbox')
    (reports : (inbox'.reporter goroutine).todo ≠ []) :
    (inbox.reporter goroutine).todo ≠ [] ∨ (∃ reason, event = .sweep goroutine reason) ∨
      (goroutine = .dispatch ∧ inbox'.delivery = .rejecting) ∨
        inbox'.drainer.reports = some goroutine := by
  cases moves step with
  | reject =>
    by_cases same : goroutine = .dispatch
    · exact .inr (.inr (.inl ⟨same, rfl⟩))
    · exact .inl (by simpa [same] using reports)
  | @checkClosed owner | @deliverUnknown owner | @writeClosed owner | @writeFailed owner =>
    by_cases same : goroutine = owner
    · subst same
      exact .inr (.inr (.inr rfl))
    · exact .inl (by simpa [failPending, same] using reports)
  | @sweep sweeper reason =>
    by_cases same : goroutine = sweeper
    · subst same
      exact .inr (.inl ⟨reason, rfl⟩)
    · exact .inl (by simpa [failPending, same] using reports)
  | @skip reporter _ _ _ before | @release reporter _ _ _ before | @emit reporter _ _ _ before =>
    by_cases same : goroutine = reporter
    · subst same
      exact .inl (by simp [before])
    · exact .inl (by simpa [same] using reports)
  | _ => exact .inl reports

/-- Nobody but a run touches the failures it has to report. -/
theorem reporter_of_step (step : inbox.step event = some inbox') {index : Nat}
    (sweep : ∀ reason, event ≠ .sweep (.run index) reason) (release : event ≠ .release (.run index))
    (emit : event ≠ .emit (.run index)) (free : inbox.drainer.owner ≠ some (.run index)) :
    inbox'.reporter (.run index) = inbox.reporter (.run index) := by
  cases moves step with
  | reject => simp [fail]
  | @checkClosed owner _ held | @deliverUnknown owner _ _ _ held
  | @writeClosed owner _ _ _ _ held | @writeFailed owner _ _ _ _ held =>
    have other : .run index ≠ owner := fun same => free (by rw [held, same]; rfl)
    simp [failPending, fail, other]
  | @sweep sweeper reason =>
    have other : .run index ≠ sweeper := fun same => sweep reason (by rw [same])
    simp [failPending, fail, other]
  | @skip reporter | @release reporter =>
    have other : .run index ≠ reporter := fun same => release (by rw [same])
    simp [other]
  | @emit reporter =>
    have other : .run index ≠ reporter := fun same => emit (by rw [same])
    simp [other]
  | _ => rfl

/-- The drain loop leaves a report only when it is complete. -/
theorem reports_of_step (reports : inbox.drainer.reports = some goroutine)
    (busy : (inbox.reporter goroutine).todo ≠ []) (step : inbox.step event = some inbox') :
    inbox'.drainer.reports = some goroutine := by
  cases moves step with
  | closeRacing held | lockDispatch held | lockRun held | checkEmpty held | checkNoStream held
  | checkClosed held | checkPop held | checkDetached held | deliver held | deliverUnknown held
  | writeClosed held | write held | writeFailed held | writeDetached held =>
    rw [held] at reports
    cases reports
  | reported held empty | failed held empty =>
    rw [held] at reports
    cases reports
    exact absurd empty busy
  | _ => exact reports

/-- `deliverInput` leaves a rejection only when it is reported. -/
theorem rejecting_of_step (rejecting : inbox.delivery = .rejecting)
    (busy : (inbox.reporter .dispatch).todo ≠ []) (step : inbox.step event = some inbox') :
    inbox'.delivery = .rejecting := by
  cases moves step with
  | finishRejecting _ empty => exact absurd empty busy
  | arrive before | replay before | reserve before | forward before | reject before
  | enqueue before | ack before | finishDraining before | lockDispatch _ before =>
    cases rejecting.symm.trans before
  | _ => exact rejecting

/-- A step of `reportInputFailure` is on an input the goroutine has to report. -/
theorem todo_ne_nil_of_report (step : inbox.step (.release goroutine) = some inbox' ∨
      inbox.step (.emit goroutine) = some inbox') : (inbox.reporter goroutine).todo ≠ [] := by
  rcases step with step | step
  · cases moves step with
    | skip before | release before => simp [before]
  · cases moves step with
    | emit before => simp [before]

end Inbox

theorem Drainer.owner_of_reports {drainer : Drainer} {goroutine : Goroutine}
    (reports : drainer.reports = some goroutine) : drainer.owner = some goroutine := by
  cases drainer <;> first | exact reports | cases reports

namespace Session

variable {session session' : Session} {event : SessionEvent}

/-- The program counters of the lifecycle and the inbox agree. -/
structure Coherent (session : Session) : Prop where
  draining : ∀ index, session.inbox.drainer.owner = some (.run index) →
    (session.life.run index).pc = .handing
  locked : session.inbox.Locked
  delivering : session.inbox.delivery ≠ .idle → session.life.command = .deliver
  runReports : ∀ index, (session.inbox.reporter (.run index)).todo ≠ [] →
    (session.life.run index).pc = .failing ∨
      session.inbox.drainer.reports = some (.run index)
  dispatchReports : (session.inbox.reporter .dispatch).todo ≠ [] →
    session.inbox.delivery = .rejecting ∨ session.life.command = .deleteFail ∨
      session.inbox.drainer.reports = some .dispatch

theorem coherent_new (spec : CreateSession) : Coherent (new spec) where
  draining := nofun
  locked := nofun
  delivering := fun busy => absurd rfl busy
  runReports := fun _ busy => absurd rfl busy
  dispatchReports := fun busy => absurd rfl busy

variable {index : Nat}

section CoherentSteps

variable (coherent : Coherent session) (step : session.step event = some session')

include coherent step

theorem draining_step (indexed : Indexed session)
    (owned : session'.inbox.drainer.owner = some (.run index)) :
    (session'.life.run index).pc = .handing := by
  have parts := stepped step
  have keeps (before : session.inbox.drainer.owner = some (.run index)) :
      (session'.life.run index).pc = .handing := by
    have handing := coherent.draining index before
    cases indexed.pc_change step index with
    | kept _ same => rw [same, handing]
    | flow taken flow =>
      rw [handing] at flow
      rcases flow.of_handing with same | rfl
      · exact same
      · subst taken
        have released : session.inbox.drainer.owner ≠ some (.run index) := by
          simpa [ready] using parts.ready
        exact absurd before released
    | launched _ _ halted _ => cases handing.symm.trans halted
  rcases parts.inbox_cases with same | ⟨taken, fires, moved⟩
  · exact keeps (by rw [← same]; exact owned)
  rcases owner_of_step moved with same | free | ⟨goroutine, rfl, locked⟩
  · exact keeps (by rw [← same]; exact owned)
  · rw [free] at owned
    contradiction
  · rw [owned] at locked
    cases locked
    obtain rfl : event = .run index .lock := origin_of_input fires
    exact (flow_of_run_step step).of_lock

theorem delivering_step
    (busy : session'.inbox.delivery ≠ .idle) : session'.life.command = .deliver := by
  have parts := stepped step
  have keeps (before : session.inbox.delivery ≠ .idle) : session'.life.command = .deliver := by
    rcases Lifecycle.deliver_of_step parts.life (coherent.delivering before) with same | rfl
    · exact same
    · have idle : session.inbox.delivery = .idle := by simpa [ready] using parts.ready
      exact absurd idle before
  rcases parts.inbox_cases with same | ⟨taken, fires, moved⟩
  · exact keeps (by rw [← same]; exact busy)
  rcases delivery_of_step moved with idle | before | ⟨input, rfl⟩
  · exact absurd idle busy
  · exact keeps before
  · obtain ⟨sent, rfl⟩ : ∃ input, event = .command (.deliver input) := origin_of_input fires
    obtain ⟨-, changed⟩ := guarded_eq_some_iff.mp parts.life
    rw [← changed]

theorem runReports_step (indexed : Indexed session)
    (busy : (session'.inbox.reporter (.run index)).todo ≠ []) :
    (session'.life.run index).pc = .failing ∨
      session'.inbox.drainer.reports = some (.run index) := by
  have parts := stepped step
  have failing (pc : (session.life.run index).pc = .failing)
      (before : (session.inbox.reporter (.run index)).todo ≠ []) :
      (session'.life.run index).pc = .failing := by
    cases indexed.pc_change step index with
    | kept _ same => rw [same, pc]
    | flow taken flow =>
      rw [pc] at flow
      rcases flow.of_failing with same | rfl
      · exact same
      · subst taken
        have empty : (session.inbox.reporter (.run index)).todo = [] := by
          simpa [ready] using parts.ready
        exact absurd empty before
    | launched _ _ halted _ => cases pc.symm.trans halted
  rcases parts.inbox_cases with same | ⟨taken, fires, moved⟩
  · rw [same] at busy ⊢
    exact (coherent.runReports index busy).imp (failing · busy) fun reports => reports
  rcases todo_of_step moved busy with before | ⟨reason, rfl⟩ | ⟨other, -⟩ | reports
  · rcases coherent.runReports index before with pc | reports
    · exact .inl (failing pc before)
    · exact .inr (reports_of_step reports before moved)
  · obtain rfl : event = .run index .sweep := origin_of_input fires
    exact .inl (flow_of_run_step step).of_sweep
  · cases other
  · exact .inr reports

theorem dispatchReports_step (busy : (session'.inbox.reporter .dispatch).todo ≠ []) :
    session'.inbox.delivery = .rejecting ∨ session'.life.command = .deleteFail ∨
      session'.inbox.drainer.reports = some .dispatch := by
  have parts := stepped step
  have deleting (command : session.life.command = .deleteFail)
      (before : (session.inbox.reporter .dispatch).todo ≠ []) :
      session'.life.command = .deleteFail := by
    rcases Lifecycle.deleteFail_of_step parts.life command with same | rfl
    · exact same
    · have empty : (session.inbox.reporter .dispatch).todo = [] := by
        simpa [ready] using parts.ready
      exact absurd empty before
  rcases parts.inbox_cases with same | ⟨taken, fires, moved⟩
  · rw [same] at busy ⊢
    exact (coherent.dispatchReports busy).imp_right (Or.imp_left (deleting · busy))
  rcases todo_of_step moved busy with before | ⟨reason, rfl⟩ | ⟨-, rejecting⟩ | reports
  · rcases coherent.dispatchReports before with rejecting | command | reports
    · exact .inl (rejecting_of_step rejecting before moved)
    · exact .inr (.inl (deleting command before))
    · exact .inr (.inr (reports_of_step reports before moved))
  · obtain rfl : event = .command .deleteSweep := origin_of_input fires
    obtain ⟨-, changed⟩ := guarded_eq_some_iff.mp parts.life
    exact .inr (.inl (by rw [← changed]))
  · exact .inl rejecting
  · exact .inr (.inr reports)

theorem locked_step : session'.inbox.Locked := by
  rcases (stepped step).inbox_cases with same | ⟨taken, -, moved⟩
  · rw [same]
    exact coherent.locked
  · exact Inbox.locked_step coherent.locked moved

end CoherentSteps

theorem coherent_of_reaches {ok : Discipline Session SessionEvent} {spec : CreateSession}
    {session : Session} (reached : Reaches step ok (new spec) session) : Coherent session := by
  refine reached.invariant (coherent_new spec) ?_
  intro session event session' before coherent _ step
  have indexed := indexed_of_reaches before
  exact {
    draining := fun _ => draining_step coherent step indexed
    locked := locked_step coherent step
    delivering := delivering_step coherent step
    runReports := fun _ => runReports_step coherent step indexed
    dispatchReports := dispatchReports_step coherent step }

theorem todo_ne_nil_of_report {goroutine : Goroutine} {action : ReportAction}
    (step : session.step (.report goroutine action) = some session') :
    (session.inbox.reporter goroutine).todo ≠ [] := by
  have moved := (stepped step).inbox
  cases action with
  | release => exact Inbox.todo_ne_nil_of_report (.inl moved)
  | emit => exact Inbox.todo_ne_nil_of_report (.inr moved)

/-- A run makes reports only in `failPendingInputs` and in the drain loop. -/
theorem Coherent.pc_of_report (coherent : Coherent session) {action : ReportAction}
    (step : session.step (.report (.run index) action) = some session') :
    (session.life.run index).pc = .failing ∨ (session.life.run index).pc = .handing :=
  (coherent.runReports index (todo_ne_nil_of_report step)).imp_right fun reports =>
    coherent.draining index (Drainer.owner_of_reports reports)

end Session

end LubricantNodes.Execution
