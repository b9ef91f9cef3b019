import LubricantNodes.Execution.Coherence
import LubricantNodes.Execution.Output

/-!
# Supervision of runs

`startRuntime` launches a run when the session's state allows it.  The state
leaves `running` before the run that set it is over: `markStopped` comes before
`close(runDone)`, and `stopAll` does not wait at all.  If a run is launched only
once `runDone` of the one before is closed, then there is one live run at a
time and a superseded run does nothing any more.

`restartRuntime` resets the state without looking at it.  If it does so only
once the session is provisioned, no run is launched before the tree is ready.
-/

namespace LubricantNodes.Execution

open Transition Lifecycle

theorem Run.Flow.of_done {pc : RunPc} {action : Run.Action} (flow : Run.Flow .done action pc) :
    pc = .done ∧ action.own = false := by
  cases flow <;> exact ⟨rfl, rfl⟩

namespace Lifecycle

variable {life life' : Lifecycle} {spec : CreateSession} {event : SessionEvent}

/-- The session is provisioned, or it is in the provisioning state and nothing
was launched. -/
def Gated (life : Lifecycle) : Prop :=
  life.provision.ready = true ∨ life.state = .provisioning ∧ life.launched = 0

theorem gated_step (gated : Gated life)
    (allowed : event = .command .restartReset → life.state ≠ .provisioning)
    (step : life.step spec event = some life') : Gated life' := by
  cases changes step with
  | launch _ launches =>
    refine .inl (gated.resolve_right fun ⟨provisioning, _⟩ => ?_)
    simp [Lifecycle.launches, provisioning] at launches
  | run =>
    refine gated.imp_right fun ⟨provisioning, fresh⟩ => ⟨?_, fresh⟩
    simp [setRun, runEffect, provisioning]
  | provision provision =>
    cases provision with
    | flip =>
      refine .inl ?_
      split_ifs <;> rfl
    | finish => exact .inl rfl
    | _ before => exact .inr (gated.resolve_left (by simp [before, Provision.ready]))
  | command command =>
    cases command with
    | restartReset => exact .inl (gated.resolve_right fun waiting => allowed rfl waiting.1)
    | stop =>
      refine gated.imp_right fun ⟨provisioning, fresh⟩ => ⟨?_, fresh⟩
      simp [provisioning]
    | _ => exact gated
  | _ => exact gated

end Lifecycle

namespace Session

/-! ## One live run -/

variable (session : Session)

/-- `startRuntime` launches a run only when `runDone` is nil or closed. -/
def launchesAfterLast : SessionEvent → Bool
  | .start _ selected =>
    session.life.launches selected = none || session.life.finished session.life.current
  | _ => true

/-- The action is one of a run goroutine: in `run` itself, in its `drainPending`
or in its `failPendingInputs`. -/
def performedBy (index : Nat) : SessionEvent → Prop
  | .run other action => other = index ∧ action.own = true
  | .drain _ => session.inbox.drainer.owner = some (.run index)
  | .report goroutine _ => goroutine = .run index
  | _ => False

/-- At most one run is live, and it is the one launched last. -/
def LatestOnly : Prop :=
  ∀ index, (session.life.run index).pc ≠ .done → index + 1 = session.life.launched

variable {event : SessionEvent} {spec : CreateSession}

theorem latestOnly_step {session session' : Session} (indexed : Indexed session)
    (latest : LatestOnly session) (allowed : session.launchesAfterLast event = true)
    (step : session.step event = some session') : LatestOnly session' := by
  have launched := launched_of_step (stepped step).life
  intro index live
  have before : (session.life.run index).pc ≠ .done → index + 1 = session'.life.launched := by
    intro live
    have last := latest index live
    cases launching : session.life.launching event with
    | none => simpa [launching, launched] using last
    | some kind =>
      have halted : (session.life.run index).pc = .done := by
        cases event with
        | start caller selected =>
          have chosen : session.life.launches selected = some kind := launching
          simpa [launchesAfterLast, chosen, current, finished, ← last] using allowed
        | _ => cases launching
      exact absurd halted live
  cases indexed.pc_change step index with
  | kept _ same => exact before (same ▸ live)
  | flow _ flow =>
    refine before fun halted => live ?_
    rw [halted] at flow
    exact flow.of_done.1
  | launched chosen last _ _ =>
    rw [chosen] at launched
    simpa [last] using launched.symm

theorem latestOnly_of_reaches {session : Session}
    (reached : Reaches step (checked launchesAfterLast) (new spec) session) :
    LatestOnly session := by
  refine reached.invariant (fun _ live => absurd rfl live) ?_
  intro session event session' before latest allowed step
  exact latestOnly_step (indexed_of_reaches before) latest allowed step

/-- A run that takes a step is live. -/
theorem live_of_performedBy {session session' : Session} {index : Nat} (coherent : Coherent session)
    (step : session.step event = some session')
    (performed : session.performedBy index event) : (session.life.run index).pc ≠ .done := by
  intro halted
  cases event with
  | run other action =>
    obtain ⟨rfl, own⟩ := performed
    have flow := flow_of_run_step step
    rw [halted] at flow
    rw [flow.of_done.2] at own
    contradiction
  | drain action => cases halted.symm.trans (coherent.draining index performed)
  | report goroutine action =>
    obtain rfl : goroutine = .run index := performed
    rcases coherent.pc_of_report step with failing | handing
    · cases halted.symm.trans failing
    · cases halted.symm.trans handing
  | _ => exact performed

/-! ## No run before the tree is ready -/

/-- `restartRuntime` resets the state only of a session that is provisioned. -/
def resetsProvisioned : SessionEvent → Bool
  | .command .restartReset => session.life.state ≠ .provisioning
  | _ => true

theorem gated_of_reaches {session : Session}
    (reached : Reaches step (checked resetsProvisioned) (new spec) session) :
    session.life.Gated := by
  refine reached.invariant (P := fun session => session.life.Gated) (.inr ⟨rfl, rfl⟩) ?_
  intro session event session' _ gated allowed step
  refine gated_step gated ?_ (stepped step).life
  rintro rfl
  exact of_decide_eq_true allowed

end Session

namespace Node

/-- One run of a session is live at a time, and a run that has been superseded
leaves the state, the pending inputs and the output queue of the later one
alone. -/
def Supervised (node : Node) (object : Nat) : Prop :=
  (∀ first second, ((node.objects object).life.run first).pc ≠ .done →
    ((node.objects object).life.run second).pc ≠ .done → first = second) ∧
  ∀ index event node', index + 1 < (node.objects object).life.launched →
    (node.objects object).performedBy index event →
    node.step (.act object event) = some node' →
      (node'.objects object).life.state = (node.objects object).life.state ∧
      (node'.objects object).inbox.pending = (node.objects object).inbox.pending ∧
      (node'.objects object).queue.closed = (node.objects object).queue.closed

/-- If a run is launched only once the one before is over, runs are supervised. -/
theorem run_supervised {opts : SessionOptions} {node : Node}
    (reached : Reaches step (checked (meets Session.launchesAfterLast)) (new opts) node)
    {object : Nat} (existing : object < node.count) : node.Supervised object := by
  obtain ⟨spec, reached⟩ := reaches_object reached existing
  have latest := Session.latestOnly_of_reaches reached
  have coherent := Session.coherent_of_reaches reached
  refine ⟨fun first second firstLive secondLive => ?_, ?_⟩
  · have firstLast := latest first firstLive
    have secondLast := latest second secondLive
    omega
  · intro index event node' superseded performed step
    have live := Session.live_of_performedBy coherent (act_step step).2 performed
    have last := latest index live
    omega

/-- The first run ends, and the session is started again. -/
theorem run_supervised_secondRun :
    ∃ node, Reaches step (checked (meets Session.launchesAfterLast)) (new claudeOptions) node ∧
      (node.objects 0).life.launched = 2 ∧ ((node.objects 0).life.run 1).pc = .launched ∧
      node.Supervised 0 := by
  refine exists_reaches_imp_of_run (fun node => 0 < node.count ∧
        (node.objects 0).life.launched = 2 ∧ ((node.objects 0).life.run 1).pc = .launched)
      (firstRunPumping ++ exited 0 0 ++ tornDown 0 0 ++ started "s") (by decide +kernel) ?_
  rintro node reached ⟨existing, launched, live⟩
  exact ⟨launched, live, run_supervised reached existing⟩

/-- `stopAll` does not wait for the run it cancels, so the next start finds it
live. -/
theorem run_not_supervised : ¬∀ (opts : SessionOptions) (node : Node) (object : Nat),
      Reaches step unrestricted (new opts) node → object < node.count → node.Supervised object := by
  intro supervised
  obtain ⟨node, reached, existing, first, second⟩ :
      ∃ node, Reaches step unrestricted (new claudeOptions) node ∧ 0 < node.count ∧
        ((node.objects 0).life.run 0).pc ≠ .done ∧ ((node.objects 0).life.run 1).pc ≠ .done :=
    exists_reaches_of_run (firstRunPumping ++ stoppedAll 0 ++ started "s") (by decide +kernel)
  have same := (supervised _ node 0 reached existing).1 0 1 first second
  contradiction

/-! ## Launches -/

/-- A run is launched only once provisioning has moved the session out of the
provisioning state, and never when provisioning fails. -/
def LaunchedProvisioned (node : Node) (object : Nat) : Prop :=
  (0 < (node.objects object).life.launched →
    (node.objects object).life.provision.ready = true) ∧
  ((node.objects object).life.provision = .removing ∨
      (node.objects object).life.provision = .failed →
    (node.objects object).life.launched = 0)

/-- If `restartRuntime` resets the state of provisioned sessions only, runs are
launched only in sessions that are provisioned. -/
theorem run_launched_provisioned {opts : SessionOptions} {node : Node}
    (reached : Reaches step (checked (meets Session.resetsProvisioned)) (new opts) node)
    {object : Nat} (existing : object < node.count) : node.LaunchedProvisioned object := by
  obtain ⟨spec, reached⟩ := reaches_object reached existing
  rcases Session.gated_of_reaches reached with ready | ⟨-, fresh⟩
  · refine ⟨fun _ => ready, ?_⟩
    rintro (removing | failed)
    · rw [removing] at ready
      contradiction
    · rw [failed] at ready
      contradiction
  · exact ⟨fun launched => absurd fresh (Nat.ne_of_gt launched), fun _ => fresh⟩

/-- Provisioning starts the first run. -/
theorem run_launched_provisioned_firstRun :
    ∃ node, Reaches step (checked (meets Session.resetsProvisioned)) (new claudeOptions) node ∧
      (node.objects 0).life.launched = 1 ∧ node.LaunchedProvisioned 0 := by
  refine exists_reaches_imp_of_run (fun node => 0 < node.count ∧ (node.objects 0).life.launched = 1)
      firstRunPumping (by decide +kernel) ?_
  rintro node reached ⟨existing, launched⟩
  exact ⟨launched, run_launched_provisioned reached existing⟩

/-- A restart that arrives during the checkout launches a run. -/
theorem run_launched_unprovisioned : ¬∀ (opts : SessionOptions) (node : Node) (object : Nat),
      Reaches step unrestricted (new opts) node → object < node.count →
        node.LaunchedProvisioned object := by
  intro provisioned
  obtain ⟨node, reached, existing, launched, unready⟩ :
      ∃ node, Reaches step unrestricted (new claudeOptions) node ∧ 0 < node.count ∧
        0 < (node.objects 0).life.launched ∧
        (node.objects 0).life.provision.ready = false :=
    exists_reaches_of_run (created oneShotSpec ++
        [.restart "s" false, .serve .restartRead, .serve .restartCancel, .serve .restartWait,
          .serve .restartReset, .restartLookup, .startLocked (.ok ())])
      (by decide +kernel)
  have ready := (provisioned _ node 0 reached existing).1 launched
  rw [unready] at ready
  contradiction

end Node

end LubricantNodes.Execution
