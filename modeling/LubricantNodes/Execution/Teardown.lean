import LubricantNodes.Execution.Supervision

/-!
# Deletion

`delete` takes a session's resources back: the file service's listener, the
editor processes, the files under the directory it removes.  It waits for the
run launched last and for nothing else, so the provisioning goroutine, an
earlier run, a `startRuntime` that has already found the session or a handler
of the file service can bring a resource back after it.

If `delete` is called when none of these is left, the file service stops only
once its handlers are done and a run is over only once its editor is gone, then
deletion is final.
-/

namespace LubricantNodes.Execution

open Transition Lifecycle

/-- `delete` is in progress. -/
def Command.deletes : Command → Bool
  | delete => true
  | deleteCancel _ => true
  | deleteWait _ => true
  | deleteSweep => true
  | deleteFail => true
  | deleteService => true
  | deleteFiles => true
  | _ => false

/-- `delete` has waited for the run. -/
def Command.waited : Command → Bool
  | deleteSweep => true
  | deleteFail => true
  | deleteService => true
  | deleteFiles => true
  | _ => false

/-- No command is in progress but `stopAll`. -/
def Command.quiet : Command → Bool
  | idle => true
  | stopCancel _ => true
  | _ => false

theorem Run.Flow.to_done {pc : RunPc} {action : Run.Action} (flow : Run.Flow pc action .done) :
    action = .close ∨ pc = .done := by
  cases flow <;> simp

namespace Lifecycle

variable {life life' : Lifecycle} {spec : CreateSession} {event : SessionEvent}

/-- `delete` is called only when provisioning has returned, no `startRuntime`
holds the session and every run but the last is over; the file service stops
only when no handler is left; a run is over only when its process is gone. -/
def tearsDown (life : Lifecycle) : SessionEvent → Bool
  | .command .delete =>
    life.provision.returned && life.holders.isEmpty &&
      (List.range (life.launched - 1)).all fun index => (life.run index).pc = .done
  | .command .deleteService => life.requests = 0
  | .run index .close => !(life.run index).alive
  | _ => true

/-- A run that is over has no process. -/
def Reaped (life : Lifecycle) : Prop :=
  ∀ index, (life.run index).pc = .done → (life.run index).alive = false

theorem reaped_step (reaped : Reaped life) (allowed : life.tearsDown event = true)
    (step : life.step spec event = some life') : Reaped life' := by
  intro index halted
  cases run_change step index with
  | kept _ _ same | cancelled _ _ same =>
    rw [same] at halted ⊢
    exact reaped index halted
  | moved taken moved =>
    subst taken
    have flow := Run.flow_of_step moved
    rw [halted] at flow
    rcases flow.to_done with rfl | before
    · obtain ⟨-, same⟩ := guarded_eq_some_iff.mp moved
      rw [← same]
      simpa [tearsDown] using allowed
    · rw [Run.step_eq_none_of_done before (reaped index before)] at moved
      cases moved
  | launched _ _ fresh =>
    rw [fresh] at halted
    cases halted

/-- The listener belongs to the session, or its provisioning goroutine is about
to hand it over. -/
def Owned (life : Lifecycle) : Prop :=
  life.listening = true → life.fileService = true ∨ life.provision = .assigning

theorem owned_step (owned : Owned life) (step : life.step spec event = some life') :
    Owned life' := by
  cases changes step with
  | provision provision =>
    cases provision with
    | serve => exact fun listening => .inr (if_pos listening)
    | assign => exact fun _ => .inl rfl
    | _ before =>
      exact fun listening => .inl ((owned listening).resolve_right (by simp [before]))
  | command command =>
    cases command with
    | deleteService => exact fun listening => owned (Bool.and_eq_true_iff.mp listening).1
    | _ => exact owned
  | _ => exact owned

/-- The session is being deleted or has been. -/
def Deleting (life : Lifecycle) : Prop :=
  life.command.deletes = true ∨ life.deleted = true

/-- What holds from the call of `delete` on. -/
structure Closing (life : Lifecycle) : Prop where
  unregistered : life.registered = false
  provisioned : life.provision.returned = true
  unheld : life.holders = []
  earlier : ∀ index, index + 1 ≠ life.launched → (life.run index).pc = .done
  reading : ∀ run, life.command = .deleteCancel run ∨ life.command = .deleteWait run →
    run = life.current
  halted : life.command.waited = true ∨ life.deleted = true →
    ∀ index, (life.run index).pc = .done
  stopped : life.command = .deleteFiles ∨ life.deleted = true →
    life.listening = false ∧ life.requests = 0
  removed : life.deleted = true → life.files = false ∧ life.command.quiet = true

theorem closing_delete (unlaunched : ∀ index, life.launched ≤ index → (life.run index).pc = .done)
    (fresh : life.deleted = false) (allowed : life.tearsDown (.command .delete) = true)
    (step : life.commandStep .delete = some life') : Closing life' := by
  cases commands step with
  | delivering _ delivers => cases delivers
  | delete =>
    simp only [tearsDown, Bool.and_eq_true, List.isEmpty_iff, List.all_eq_true, List.mem_range,
      decide_eq_true_eq] at allowed
    obtain ⟨⟨returned, unheld⟩, halted⟩ := allowed
    refine ⟨rfl, returned, unheld, ?_, ?_, ?_, ?_, ?_⟩
    · intro index notLast
      dsimp only at notLast
      by_cases beyond : life.launched ≤ index
      · exact unlaunched index beyond
      · exact halted index (by omega)
    · rintro _ (⟨⟨⟩⟩ | ⟨⟨⟩⟩)
    · rintro (⟨⟨⟩⟩ | deleted)
      cases fresh.symm.trans deleted
    · rintro (⟨⟨⟩⟩ | deleted)
      cases fresh.symm.trans deleted
    · intro deleted
      cases fresh.symm.trans deleted

/-- A run that is over stays so. -/
theorem over_of_step (step : life.step spec event = some life')
    (quiet : life.launching event = none) {index : Nat} (halted : (life.run index).pc = .done) :
    (life'.run index).pc = .done := by
  cases run_change step index with
  | kept _ _ same | cancelled _ _ same => rw [same]; exact halted
  | moved _ moved =>
    have flow := Run.flow_of_step moved
    rw [halted] at flow
    exact flow.of_done.1
  | launched launches => cases quiet.symm.trans launches

theorem closing_run (closing : Closing life) (reaped : Reaped life) {moving : Nat}
    {action : Run.Action} (step : life.step spec (.run moving action) = some life') :
    Closing life' := by
  have halted : ∀ index, (life.run index).pc = .done → (life'.run index).pc = .done :=
    fun _ => over_of_step step rfl
  obtain ⟨run, moved, rfl⟩ := Option.map_eq_some_iff.mp step
  refine ⟨closing.unregistered, closing.provisioned, closing.unheld,
    fun index notLast => halted index (closing.earlier index notLast), closing.reading,
    fun done index => halted index (closing.halted done index), closing.stopped, fun deleted => ?_⟩
  have before := closing.halted (.inr deleted) moving
  rw [Run.step_eq_none_of_done before (reaped moving before)] at moved
  cases moved

theorem closing_command (closing : Closing life) (deleting : Deleting life) (owned : Owned life)
    {action : Command.Action} (allowed : life.tearsDown (.command action) = true)
    (command : Commands life action life') : Closing life' := by
  obtain ⟨unregistered, provisioned, unheld, earlier, reading, halted, stopped, removed⟩ := closing
  have fresh (busy : life.command.quiet = false) : life.deleted = false := by
    rw [Bool.eq_false_iff]
    intro deleted
    cases busy.symm.trans (removed deleted).2
  have idle (others : life.command.deletes = false) : life.command.quiet = true :=
    (removed (deleting.resolve_left (by simp [others]))).2
  cases command with
  | restart _ registered | delete _ registered | deliver _ registered =>
    cases unregistered.symm.trans registered
  | restartRead before | restartCancel before | restartWait before | restartFresh before
  | restartReset before | delivering before | delivered before =>
    rw [before] at idle
    cases idle rfl
  | deleteRead before =>
    rw [before] at fresh
    refine ⟨unregistered, provisioned, unheld, earlier, ?_, ?_, ?_, ?_⟩
    · rintro _ (⟨⟨⟩⟩ | ⟨⟨⟩⟩)
      rfl
    all_goals simp [fresh rfl, Command.waited]
  | deleteCancel before =>
    rw [before] at fresh
    refine ⟨unregistered, provisioned, unheld, earlier, ?_, ?_, ?_, ?_⟩
    · rintro _ (⟨⟨⟩⟩ | ⟨⟨⟩⟩)
      exact reading _ (.inl before)
    all_goals simp [fresh rfl, Command.waited]
  | deleteWait before finished =>
    rw [before] at fresh
    have last := reading _ (.inr before)
    refine ⟨unregistered, provisioned, unheld, earlier, by simp, ?_, by simp [fresh rfl],
      by simp [fresh rfl]⟩
    · intro _ index
      by_cases isLast : index + 1 = life.launched
      · have current : life.current = some index := by
          simp [current, ← isLast]
        rw [last, current] at finished
        exact of_decide_eq_true finished
      · exact earlier index isLast
  | deleteSweep before | deleteSwept before =>
    rw [before] at fresh
    exact ⟨unregistered, provisioned, unheld, earlier, by simp,
      fun _ => halted (.inl (by rw [before]; rfl)), by simp [fresh rfl], by simp [fresh rfl]⟩
  | deleteService before =>
    rw [before] at fresh
    refine ⟨unregistered, provisioned, unheld, earlier, by simp,
      fun _ => halted (.inl (by rw [before]; rfl)), fun _ => ⟨?_, ?_⟩, by simp [fresh rfl]⟩
    · have handed : life.listening = true → life.fileService = true := fun listening =>
        (owned listening).resolve_right fun assigning => by
          rw [assigning] at provisioned
          cases provisioned
      cases listening : life.listening with
      | false => rfl
      | true => simp [handed listening]
    · exact of_decide_eq_true allowed
  | deleteFiles before =>
    refine ⟨unregistered, provisioned, unheld, earlier, by simp,
      fun _ => halted (.inl (by rw [before]; rfl)), fun _ => stopped (.inl before), ?_⟩
    intro deleted
    dsimp only at deleted
    exact ⟨by simp [deleted], rfl⟩
  | stop before =>
    have deleted : life.deleted = true := deleting.resolve_left (by simp [before, Command.deletes])
    exact ⟨unregistered, provisioned, unheld, earlier, by simp, fun _ => halted (.inr deleted),
      fun _ => stopped (.inr deleted), fun _ => ⟨(removed deleted).1, rfl⟩⟩
  | @stopCancel run before =>
    have deleted : life.deleted = true := deleting.resolve_left (by simp [before, Command.deletes])
    have done : ∀ index, ((life.cancel run).run index).pc = .done := fun index => by
      dsimp only [cancel]
      split <;> exact halted (.inr deleted) index
    exact ⟨unregistered, provisioned, unheld, fun index _ => done index, by simp,
      fun _ => done, fun _ => stopped (.inr deleted), fun _ => ⟨(removed deleted).1, rfl⟩⟩

theorem closing_step (closing : Closing life) (deleting : Deleting life) (reaped : Reaped life)
    (owned : Owned life) (allowed : life.tearsDown event = true)
    (step : life.step spec event = some life') : Closing life' := by
  have served (busy : life.listening = true ∨ 0 < life.requests) :
      ¬(life.command = .deleteFiles ∨ life.deleted = true) := fun done => by
    obtain ⟨closed, none⟩ := closing.stopped done
    rcases busy with listening | some
    · cases closed.symm.trans listening
    · omega
  cases changes step with
  | lookup registered => cases closing.unregistered.symm.trans registered
  | refuse held | launch held =>
    rw [closing.unheld] at held
    cases held
  | evict =>
    exact ⟨rfl, closing.provisioned, closing.unheld, closing.earlier, closing.reading,
      closing.halted, closing.stopped, closing.removed⟩
  | run => exact closing_run closing reaped step
  | provision provision => cases provision.not_returned.symm.trans closing.provisioned
  | accept listening =>
    exact ⟨closing.unregistered, closing.provisioned, closing.unheld, closing.earlier,
      closing.reading, closing.halted, fun done => absurd done (served (.inl listening)),
      closing.removed⟩
  | respond busy =>
    exact ⟨closing.unregistered, closing.provisioned, closing.unheld, closing.earlier,
      closing.reading, closing.halted, fun done => absurd done (served (.inr busy)),
      fun deleted => absurd (.inr deleted) (served (.inr busy))⟩
  | command command => exact closing_command closing deleting owned allowed command
  | flush | drain | report => exact closing

/-- A deletion begins with the call of `delete`. -/
theorem deleting_of_step (step : life.step spec event = some life') (deleting : Deleting life') :
    Deleting life ∨ event = .command .delete := by
  cases changes step with
  | command command =>
    cases command with
    | delete => exact .inr rfl
    | deleteRead before | deleteCancel before | deleteWait before | deleteSweep before
    | deleteSwept before | deleteService before | deleteFiles before =>
      exact .inl (.inl (by rw [before]; rfl))
    | delivering => exact .inl deleting
    | restartWait | restartFresh =>
      refine .inl (.inr (deleting.resolve_left fun deletes => ?_))
      split_ifs at deletes <;> cases deletes
    | restart | restartRead | restartCancel | restartReset | deliver | delivered | stop
    | stopCancel => exact .inl (.inr (deleting.resolve_left nofun))
  | provision provision => cases provision <;> exact .inl deleting
  | _ => exact .inl deleting

end Lifecycle

namespace Session

/-- The conditions under which deletion is final. -/
def tearsDown (session : Session) (event : SessionEvent) : Bool :=
  session.life.tearsDown event

/-- What the lifecycle of a session keeps to under these conditions. -/
structure Reclaimed (session : Session) : Prop where
  reaped : session.life.Reaped
  owned : session.life.Owned
  closing : session.life.Deleting → session.life.Closing

variable {session : Session}

theorem reclaimed_step {session' : Session} {event : SessionEvent} (indexed : Indexed session)
    (reclaimed : Reclaimed session) (allowed : session.tearsDown event = true)
    (step : session.step event = some session') : Reclaimed session' := by
  have life := (stepped step).life
  refine ⟨reaped_step reclaimed.reaped allowed life,
    owned_step reclaimed.owned life, fun deleting => ?_⟩
  by_cases before : session.life.Deleting
  · exact closing_step (reclaimed.closing before) before reclaimed.reaped
      reclaimed.owned allowed life
  · obtain rfl := (deleting_of_step life deleting).resolve_left before
    have fresh : session.life.deleted = false :=
      eq_false_of_ne_true fun deleted => before (.inr deleted)
    exact closing_delete (fun index beyond => (indexed.unlaunched index beyond).1) fresh
      allowed life

theorem reclaimed_of_reaches {spec : CreateSession}
    (reached : Reaches step (checked tearsDown) (new spec) session) : Reclaimed session := by
  refine reached.invariant ⟨fun _ _ => rfl, nofun, ?_⟩ ?_
  · rintro (⟨⟨⟩⟩ | ⟨⟨⟩⟩)
  · intro session event session' before reclaimed allowed step
    exact reclaimed_step (indexed_of_reaches before) reclaimed allowed step

/-- All goroutines of the session have finished. -/
def Finished (session : Session) : Prop :=
  session.life.provision.returned = true ∧ session.life.holders = [] ∧
    session.life.command = .idle ∧ session.life.requests = 0 ∧
    ∀ index < session.life.launched, (session.life.run index).pc = .done ∧
      (session.queue.flusher index).alive = false

instance (session : Session) : Decidable (Finished session) :=
  inferInstanceAs (Decidable (_ ∧ _ ∧ _ ∧ _ ∧ _))

/-- The session owns nothing that `delete` is to take back. -/
structure Released (session : Session) : Prop where
  listener : session.life.listening = false
  processes : ∀ index, (session.life.run index).alive = false
  files : session.life.files = false

theorem released_of_deleted (reclaimed : Reclaimed session)
    (deleted : session.life.deleted = true) : Released session where
  listener := ((reclaimed.closing (.inr deleted)).stopped (.inr deleted)).1
  processes := fun index =>
    reclaimed.reaped index ((reclaimed.closing (.inr deleted)).halted (.inr deleted) index)
  files := ((reclaimed.closing (.inr deleted)).removed deleted).1

end Session

namespace Node

/-- Under these conditions a deleted session owns nothing, as soon as `delete`
has returned and ever after. -/
theorem delete_final {opts : SessionOptions} {node : Node}
    (reached : Reaches step (checked (meets Session.tearsDown)) (new opts) node) {object : Nat}
    (existing : object < node.count) (deleted : (node.objects object).life.deleted = true) :
    (node.objects object).Released := by
  obtain ⟨spec, reached⟩ := reaches_object reached existing
  exact Session.released_of_deleted (Session.reclaimed_of_reaches reached) deleted

theorem delete_final_firstRun :
    ∃ node, Reaches step (checked (meets Session.tearsDown)) (new claudeOptions) node ∧
      (node.objects 0).life.deleted = true ∧ (node.objects 0).Released := by
  refine exists_reaches_imp_of_run (fun node => 0 < node.count ∧
        (node.objects 0).life.deleted = true)
      (firstRunPumping ++ exited 0 0 ++ tornDown 0 0 ++ deleted "s") (by decide +kernel) ?_
  rintro node reached ⟨existing, deleted⟩
  exact ⟨deleted, delete_final reached existing deleted⟩

/-- A session is deleted during its checkout; its provisioning goroutine goes on
to start the file service and to write configuration. -/
theorem delete_not_final : ¬∀ (opts : SessionOptions) (node : Node) (object : Nat),
      Reaches step unrestricted (new opts) node → object < node.count →
        (node.objects object).life.deleted = true → (node.objects object).Finished →
          (node.objects object).Released := by
  intro final
  obtain ⟨node, reached, existing, deleted, finished, listening⟩ :
      ∃ node, Reaches step unrestricted (new claudeOptions) node ∧ 0 < node.count ∧
        (node.objects 0).life.deleted = true ∧ (node.objects 0).Finished ∧
        (node.objects 0).life.listening = true :=
    exists_reaches_of_run (created oneShotSpec ++ deleted "s" ++ prepared 0 ++
        [.provisionLookup 0, .provisionReturn 0])
      (by decide +kernel)
  have closed := (final _ node 0 reached existing deleted finished).listener
  rw [listening] at closed
  contradiction

end Node

end LubricantNodes.Execution
