import Mathlib.Data.List.Sort
import Mathlib.Data.String.Basic
import LubricantNodes.Transition.Core

/-!
# The tunnel agent and its pause flag

`UpdateTunnels` tears healthy tunnels down when it cannot list the devices, so the job
engine pauses the reconcile loop while jobs run, and the loop calls it only when it has
to.  The engine decides under its lock whether to pause or to resume, but
`OnActiveChanged` runs after the lock was released; and the loop reads the flag before it
lists the devices, but begins the update after that.
-/

namespace LubricantNodes.Agent

open Transition

/-! ## Who pauses the agent -/

/-- The jobs of the engine, and the flag of the tunnel agent. -/
structure JobEngine where
  jobs : List String := []
  /-- Jobs whose `Start` has not returned from `OnActiveChanged(true)`. -/
  announcing : List String := []
  /-- Calls of `OnActiveChanged(false)` that have not returned. -/
  resuming : Nat := 0
  paused : Bool := false

namespace JobEngine

/-- What happens to the engine. -/
inductive Event
  | start (jobId udid : String)
  /-- `Pause` returns, and the pipeline of the job begins. -/
  | pause (jobId : String)
  /-- The pipeline of a job ends. -/
  | finish (jobId : String)
  /-- `Resume` returns. -/
  | resume

/-- `Start` and `run` up to their callbacks, and the callbacks. -/
def step : Step JobEngine Event
  | engine, .start jobId udid =>
    if jobId = "" ∨ udid = "" ∨ jobId ∈ engine.jobs then some engine
    else some { engine with
      jobs := jobId :: engine.jobs
      announcing := if engine.jobs = [] then jobId :: engine.announcing else engine.announcing }
  | engine, .pause jobId =>
    guarded (jobId ∈ engine.announcing)
      { engine with announcing := engine.announcing.erase jobId, paused := true }
  | engine, .finish jobId =>
    guarded (jobId ∈ engine.jobs ∧ jobId ∉ engine.announcing)
      { engine with
        jobs := engine.jobs.erase jobId
        resuming := if engine.jobs.erase jobId = [] then engine.resuming + 1
          else engine.resuming }
  | engine, .resume =>
    guarded (0 < engine.resuming)
      { engine with resuming := engine.resuming - 1, paused := false }

/-- No callback is in flight. -/
def NoCallback (engine : JobEngine) : Prop :=
  engine.announcing = [] ∧ engine.resuming = 0
  deriving Decidable

/-- Then the agent is paused exactly while there are jobs. -/
def Agrees (engine : JobEngine) : Prop :=
  engine.NoCallback → (engine.paused = true ↔ engine.jobs ≠ [])

/-- The first job is registered only while no callback is in flight. -/
def Uncrossed : Discipline JobEngine Event
  | engine, .start jobId udid =>
    jobId ≠ "" → udid ≠ "" → engine.jobs = [] → engine.NoCallback
  | _, _ => True

instance (engine : JobEngine) (event : Event) : Decidable (Uncrossed engine event) := by
  unfold Uncrossed
  split <;> infer_instance

/-- At most one callback is in flight, and it says what is so. -/
inductive OneCallback (engine : JobEngine) : Prop
  | idle : engine.NoCallback → (engine.paused = true ↔ engine.jobs ≠ []) → OneCallback engine
  | pausing {jobId : String} : jobId ∈ engine.jobs → engine.announcing = [jobId] →
      engine.resuming = 0 → OneCallback engine
  | resuming : engine.jobs = [] → engine.announcing = [] → engine.resuming = 1 → OneCallback engine

variable {engine next : JobEngine} {event : Event}

theorem OneCallback.start {jobId udid : String} (one : engine.OneCallback)
    (uncrossed : Uncrossed engine (.start jobId udid))
    (taken : step engine (.start jobId udid) = some next) : next.OneCallback := by
  by_cases refused : jobId = "" ∨ udid = "" ∨ jobId ∈ engine.jobs
  · rw [step, if_pos refused] at taken
    cases taken
    exact one
  rw [step, if_neg refused] at taken
  cases taken
  cases one with
  | idle idle agrees =>
    by_cases first : engine.jobs = []
    · refine .pausing List.mem_cons_self ?_ idle.2
      rw [if_pos first, idle.1]
    · refine .idle ⟨?_, idle.2⟩ ?_
      · rw [if_neg first]
        exact idle.1
      · simpa [first] using agrees
  | pausing listed announcing resuming =>
    refine .pausing (List.mem_cons_of_mem _ listed) ?_ resuming
    rw [if_neg (List.ne_nil_of_mem listed)]
    exact announcing
  | resuming empty _ resuming =>
    have named := not_or.mp refused
    have idle := uncrossed named.1 (not_or.mp named.2).1 empty
    cases resuming.symm.trans idle.2

theorem OneCallback.finish {jobId : String} (one : engine.OneCallback)
    (taken : step engine (.finish jobId) = some next) : next.OneCallback := by
  rcases guarded_eq_some_iff.mp taken with ⟨⟨listed, launched⟩, rfl⟩
  cases one with
  | idle idle agrees =>
    by_cases last : engine.jobs.erase jobId = []
    · refine .resuming last idle.1 ?_
      rw [if_pos last, idle.2]
    · refine .idle ⟨idle.1, ?_⟩ (iff_of_true (agrees.mpr (List.ne_nil_of_mem listed)) last)
      rw [if_neg last]
      exact idle.2
  | @pausing first present announcing resuming =>
    have other : first ≠ jobId := by
      rintro rfl
      rw [announcing] at launched
      exact launched (List.mem_singleton_self _)
    have still := (List.mem_erase_of_ne other).mpr present
    refine .pausing still announcing ?_
    rw [if_neg (List.ne_nil_of_mem still)]
    exact resuming
  | resuming empty =>
    rw [empty] at listed
    cases listed

theorem OneCallback.step (one : engine.OneCallback) (uncrossed : Uncrossed engine event)
    (taken : JobEngine.step engine event = some next) : next.OneCallback := by
  cases event with
  | start => exact one.start uncrossed taken
  | finish => exact one.finish taken
  | pause =>
    rcases guarded_eq_some_iff.mp taken with ⟨announced, rfl⟩
    cases one with
    | idle idle =>
      rw [idle.1] at announced
      cases announced
    | pausing listed announcing resuming =>
      rw [announcing, List.mem_singleton] at announced
      subst announced
      refine .idle ⟨?_, resuming⟩ (iff_of_true rfl (List.ne_nil_of_mem listed))
      rw [announcing, List.erase_cons_head]
    | resuming _ announcing =>
      rw [announcing] at announced
      cases announced
  | resume =>
    rcases guarded_eq_some_iff.mp taken with ⟨pending, rfl⟩
    cases one with
    | idle idle => exact absurd idle.2 pending.ne'
    | pausing _ _ resuming => exact absurd resuming pending.ne'
    | resuming empty announcing resuming =>
      refine .idle ⟨announcing, ?_⟩ (iff_of_false nofun (not_not_intro empty))
      rw [resuming]

/-- As long as the first job is registered only while no callback is in flight, the agent
is paused exactly while jobs are registered. -/
theorem paused_while_jobs (reached : Reaches step Uncrossed {} engine) : engine.Agrees := by
  have one : engine.OneCallback :=
    reached.invariant (P := OneCallback) (.idle ⟨rfl, rfl⟩ (iff_of_false nofun (not_not_intro rfl)))
      fun _ one uncrossed taken => one.step uncrossed taken
  intro idle
  cases one with
  | idle _ agrees => exact agrees
  | pausing _ announcing => cases announcing.symm.trans idle.1
  | resuming _ _ resuming => cases resuming.symm.trans idle.2

/-- Two jobs overlap, and a third one follows. -/
theorem paused_while_jobs_overlapping : ∃ engine, Reaches step Uncrossed {} engine ∧
    (engine.jobs = ["c"] ∧ engine.NoCallback) ∧ engine.Agrees := by
  refine exists_reaches_and_of_run [.start "a" "u", .pause "a", .start "b" "v", .finish "a",
      .finish "b", .resume, .start "c" "u", .pause "c"] (by decide +kernel) ?_
  intro engine reached _
  exact paused_while_jobs reached

/-- A job begins while the callback of the last one is in flight: it pauses the agent, and
then the old callback resumes it. -/
theorem resumed_under_job : ∃ engine, Reaches step unrestricted {} engine ∧ ¬engine.Agrees := by
  refine exists_reaches_imp_of_run (fun engine => engine.NoCallback ∧ engine.jobs = ["b"] ∧
        engine.paused = false)
      [.start "a" "u", .pause "a", .finish "a", .start "b" "v", .pause "b",
      .resume] (by decide +kernel) ?_
  rintro engine reached ⟨idle, jobs, paused⟩ agrees
  have nonempty : engine.jobs ≠ [] := by
    rw [jobs]
    exact List.cons_ne_nil _ _
  cases paused.symm.trans ((agrees idle).mpr nonempty)

end JobEngine

/-! ## The reconcile loop -/

/-- What became of the update that a tick may begin. -/
inductive TunnelUpdate
  | skipped
  | begun
  | failed
  | succeeded
  deriving DecidableEq

/-- A tick that has listed the devices. -/
structure TunnelTick where
  /-- What `ListDevices` gave, or that it failed. -/
  probe : Option (List String)
  /-- What `ListTunnels` gave. -/
  tunnels : Option (List String)
  /-- At the end of the tick the loop was paused and its first update completed. -/
  barred : Bool
  update : TunnelUpdate
  deriving DecidableEq

/-- Where a tick of the loop is. -/
inductive TunnelPhase
  | waiting
  /-- The flag has been read. -/
  | probing
  | updating (set : Option String)
  deriving DecidableEq

/-- The variables of the reconcile goroutine, the flag of the agent, and the history. -/
structure TunnelLoop where
  paused : Bool := false
  firstUpdateCompleted : Bool := false
  lastReconciledSet : String := ""
  probeFailStreak : Nat := 0
  /-- In nanoseconds. -/
  lastReconcileAttempt : Option Int := none
  phase : TunnelPhase := .waiting
  /-- The ticks, the latest first. -/
  ticks : List TunnelTick := []

/-- So many failed probes in a row force an update. -/
def forceAfterFailures : Nat := 10

/-- `deviceSetKey`: the sorted UDIDs, joined. -/
def deviceSetKey (devices : List String) : String :=
  String.intercalate "," (devices.insertionSort (· ≤ ·))

/-- `allDevicesTunneled`, given what `ListTunnels` gave. -/
def allDevicesTunneled (tunnels : Option (List String)) (devices : List String) : Bool :=
  match tunnels with
  | none => false
  | some tunnels => devices.all (tunnels.contains ·)

namespace TunnelLoop

/-- What happens to the loop. -/
inductive Event
  | pause
  | resume
  | tick
  | probe (devices tunnels : Option (List String)) (now : Int)
  /-- `UpdateTunnels` returns. -/
  | updated (succeeds completes : Bool)

/-- The end of a tick that has listed the devices. -/
def record (loop : TunnelLoop) (devices tunnels : Option (List String)) (begins : Bool) :
    TunnelLoop :=
  { loop with
    phase := if begins then .updating (devices.map deviceSetKey) else .waiting
    ticks := ⟨devices, tunnels, loop.paused && loop.firstUpdateCompleted,
      if begins then .begun else .skipped⟩ :: loop.ticks }

/-- A tick from `ListDevices` to the decision whether to update. -/
def probed (loop : TunnelLoop) (devices tunnels : Option (List String)) (now : Int) : TunnelLoop :=
  match devices with
  | none =>
    if loop.probeFailStreak + 1 < forceAfterFailures then
      { loop with probeFailStreak := loop.probeFailStreak + 1 }.record none tunnels false
    else { loop with probeFailStreak := 0 }.record none tunnels true
  | some listed =>
    if deviceSetKey listed = loop.lastReconciledSet ∧ allDevicesTunneled tunnels listed = true then
      { loop with probeFailStreak := 0 }.record listed tunnels false
    else if deviceSetKey listed = loop.lastReconciledSet ∧
        ∃ last ∈ loop.lastReconcileAttempt, now - last < 5000000000 then
      { loop with probeFailStreak := 0 }.record listed tunnels false
    else
      { loop with probeFailStreak := 0, lastReconcileAttempt := some now }.record listed tunnels
        true

/-- The latest tick has ended its update. -/
def conclude (succeeds : Bool) : List TunnelTick → List TunnelTick
  | [] => []
  | tick :: past => { tick with update := if succeeds then .succeeded else .failed } :: past

/-- One action of the loop, or a change of the flag. -/
def step : Step TunnelLoop Event
  | loop, .pause => some { loop with paused := true }
  | loop, .resume => some { loop with paused := false }
  | loop, .tick =>
    guarded (loop.phase = .waiting)
      (if loop.paused && loop.firstUpdateCompleted then loop else { loop with phase := .probing })
  | loop, .probe devices tunnels now =>
    guarded (loop.phase = .probing) (loop.probed devices tunnels now)
  | loop, .updated succeeds completes =>
    match loop.phase with
    | .updating set =>
      some { loop with
        phase := .waiting
        firstUpdateCompleted := loop.firstUpdateCompleted || completes
        lastReconciledSet := if succeeds then set.getD loop.lastReconciledSet
          else loop.lastReconciledSet
        ticks := conclude succeeds loop.ticks }
    | _ => none

/-! ### What is allowed -/

/-- Failed probes since the last successful probe or forced update. -/
def failures : List TunnelTick → Nat
  | ⟨none, _, _, .skipped⟩ :: past => failures past + 1
  | _ => 0

/-- The devices of the last successful update. -/
def lastUpdated : List TunnelTick → Option (List String)
  | [] => none
  | ⟨some devices, _, _, .succeeded⟩ :: _ => some devices
  | _ :: past => lastUpdated past

/-- The update of a tick, if there is one, may be begun. -/
structure Allowed (tick : TunnelTick) (past : List TunnelTick) : Prop where
  unpaused : tick.barred = false
  forced : tick.probe = none → failures past + 1 = forceAfterFailures
  needed : ∀ devices ∈ tick.probe, ∀ earlier ∈ lastUpdated past,
    (∀ udid, udid ∈ devices ↔ udid ∈ earlier) → ¬∀ udid ∈ devices, udid ∈ tick.tunnels.getD []

/-- Every update was allowed. -/
def Restrained (loop : TunnelLoop) : Prop :=
  ∀ tick past, tick :: past <:+ loop.ticks → tick.update ≠ .skipped → Allowed tick past

/-- `Pause` does not come between the look at the flag and the end of a tick, the tunnels
can be listed, and no device is listed twice. -/
def CleanTicks : Discipline TunnelLoop Event
  | loop, .pause => loop.phase ≠ .probing
  | _, .probe devices tunnels _ => tunnels ≠ none ∧ ∀ listed ∈ devices, listed.Nodup
  | _, _ => True

instance (loop : TunnelLoop) (event : Event) : Decidable (CleanTicks loop event) := by
  delta CleanTicks
  rcases event with _ | _ <;> infer_instance

/-- The variables of the loop say what they should. -/
structure Sound (loop : TunnelLoop) : Prop where
  restrained : loop.Restrained
  streak : loop.probeFailStreak = failures loop.ticks
  below : loop.probeFailStreak < forceAfterFailures
  last : ∀ earlier ∈ lastUpdated loop.ticks, earlier.Nodup ∧
    loop.lastReconciledSet = deviceSetKey earlier
  probing : loop.phase = .probing → (loop.paused && loop.firstUpdateCompleted) = false
  updating : ∀ set, loop.phase = .updating set → ∃ devices tunnels barred past,
    loop.ticks = ⟨devices, tunnels, barred, .begun⟩ :: past ∧ set = devices.map deviceSetKey ∧
      ∀ listed ∈ devices, listed.Nodup

variable {loop next : TunnelLoop} {devices tunnels : Option (List String)} {event : Event}

theorem deviceSetKey_congr {first second : List String} (nodup : first.Nodup)
    (nodupToo : second.Nodup) (same : ∀ udid, udid ∈ first ↔ udid ∈ second) :
    deviceSetKey first = deviceSetKey second := by
  have perm : first.Perm second := (List.perm_ext_iff_of_nodup nodup nodupToo).mpr same
  have sorted : (first.insertionSort (· ≤ ·)).Perm (second.insertionSort (· ≤ ·)) :=
    (List.perm_insertionSort _ first).trans (perm.trans (List.perm_insertionSort _ second).symm)
  rw [deviceSetKey, List.Perm.eq_of_sortedLE List.sortedLE_insertionSort
    List.sortedLE_insertionSort sorted, deviceSetKey]

theorem Sound.record {streak : Nat} {attempt : Option Int} {begins : Bool} (sound : loop.Sound)
    (nodup : ∀ listed ∈ devices, listed.Nodup) (below : streak < forceAfterFailures)
    (counts : ∀ barred, streak = failures
      (⟨devices, tunnels, barred, if begins then .begun else .skipped⟩ :: loop.ticks))
    (allowed : begins = true →
      Allowed ⟨devices, tunnels, loop.paused && loop.firstUpdateCompleted, .begun⟩ loop.ticks) :
    ({ loop with probeFailStreak := streak, lastReconcileAttempt := attempt }.record devices tunnels
      begins).Sound where
  restrained := by
    intro tick past suffix begun
    rcases List.suffix_cons_iff.mp suffix with same | before
    · cases same
      cases begins with
      | false => exact absurd rfl begun
      | true => exact allowed rfl
    · exact sound.restrained tick past before begun
  streak := counts _
  below := below
  last := by
    cases begins <;> cases devices <;> exact sound.last
  probing := by
    cases begins <;> rintro ⟨⟩
  updating := by
    intro set
    cases begins with
    | false => rintro ⟨⟩
    | true =>
      rintro ⟨⟩
      exact ⟨devices, tunnels, _, loop.ticks, rfl, rfl, nodup⟩

theorem Sound.probed (sound : loop.Sound) (phase : loop.phase = .probing) (now : Int)
    (clean : CleanTicks loop (.probe devices tunnels now)) :
    (loop.probed devices tunnels now).Sound := by
  have unpaused := sound.probing phase
  unfold TunnelLoop.probed
  cases devices with
  | none =>
    split_ifs with more
    · exact sound.record clean.2 more (fun _ => congrArg (· + 1) sound.streak) nofun
    · refine sound.record clean.2 (by decide) (fun _ => rfl) fun _ => ⟨unpaused, ?_, nofun⟩
      intro _
      rw [← sound.streak]
      exact Nat.le_antisymm sound.below (Nat.le_of_not_lt more)
  | some listed =>
    dsimp only
    split_ifs with steady throttled
    · exact sound.record clean.2 (by decide) (fun _ => rfl) nofun
    · exact sound.record clean.2 (by decide) (fun _ => rfl) nofun
    refine sound.record clean.2 (by decide) (fun _ => rfl) fun _ => ⟨unpaused, nofun, ?_⟩
    rintro _ ⟨⟩ earlier found same covered
    rcases sound.last earlier found with ⟨nodup, key⟩
    apply steady
    refine ⟨(deviceSetKey_congr (clean.2 listed rfl) nodup same).trans key.symm, ?_⟩
    cases tunnels with
    | none => exact absurd rfl clean.1
    | some => simpa [allDevicesTunneled] using covered

theorem Sound.updated {succeeds completes : Bool} (sound : loop.Sound)
    (taken : step loop (.updated succeeds completes) = some next) : next.Sound := by
  cases phase : loop.phase with
  | waiting | probing =>
    rw [step, phase] at taken
    cases taken
  | updating set =>
    rw [step, phase] at taken
    cases taken
    rcases sound.updating set phase with ⟨devices, tunnels, barred, past, ticks, rfl, nodup⟩
    have restrained := sound.restrained
    have streak := sound.streak
    have last := sound.last
    unfold Restrained at restrained
    rw [ticks] at restrained streak last
    constructor
    · intro tick before suffix begun
      rw [ticks] at suffix
      rcases List.suffix_cons_iff.mp suffix with same | earlier
      · cases same
        exact { restrained _ past List.suffix_rfl nofun with }
      · exact restrained tick before (earlier.trans (List.suffix_cons _ _)) begun
    · rw [ticks]
      cases devices <;> cases succeeds <;> exact streak
    · exact sound.below
    · rw [ticks]
      cases succeeds with
      | false => cases devices <;> exact last
      | true =>
        cases devices with
        | none => exact last
        | some listed =>
          rintro _ ⟨⟩
          exact ⟨nodup listed rfl, rfl⟩
    · rintro ⟨⟩
    · rintro _ ⟨⟩

theorem Sound.step (sound : loop.Sound) (clean : CleanTicks loop event)
    (taken : TunnelLoop.step loop event = some next) : next.Sound := by
  cases event with
  | pause =>
    cases taken
    exact { sound with probing := fun probing => absurd probing clean }
  | resume =>
    cases taken
    exact { sound with probing := fun _ => rfl }
  | tick =>
    rcases guarded_eq_some_iff.mp taken with ⟨_, rfl⟩
    split_ifs with barred
    · exact sound
    · exact { sound with probing := fun _ => eq_false_of_ne_true barred, updating := nofun }
  | probe _ _ now =>
    rcases guarded_eq_some_iff.mp taken with ⟨phase, rfl⟩
    exact sound.probed phase now clean
  | updated => exact sound.updated taken

/-- As long as `Pause` does not come in the middle of a tick, the tunnels can be listed and
no device is listed twice, no update is begun that is not allowed. -/
theorem updates_restrained (reached : Reaches step CleanTicks {} loop) : loop.Restrained := by
  have start : Sound {} := by
    refine ⟨?_, rfl, by decide, nofun, nofun, nofun⟩
    intro tick past suffix
    cases List.suffix_nil.mp suffix
  have sound : loop.Sound :=
    reached.invariant (P := Sound) start fun _ sound clean taken => sound.step clean taken
  exact sound.restrained

/-- An update is needed and succeeds, and later ones are skipped: for a steady state, while
paused and for a failed probe. -/
theorem updates_restrained_steady : ∃ loop, Reaches step CleanTicks {} loop ∧
    loop.ticks.map TunnelTick.update = [.skipped, .skipped, .succeeded] ∧ loop.Restrained := by
  refine exists_reaches_and_of_run [.tick, .probe (some ["u"]) (some []) 0, .updated true true,
      .tick, .probe (some ["u"]) (some ["u"]) 1, .pause, .tick, .resume, .tick,
      .probe none (some ["u"]) 2] (by decide +kernel) ?_
  intro loop reached _
  exact updates_restrained reached

/-- `Pause` returns while the loop lists the devices, and then the update is begun. -/
theorem update_while_paused : ∃ loop, Reaches step unrestricted {} loop ∧ ¬loop.Restrained := by
  refine exists_reaches_imp_of_run (fun loop =>
        loop.ticks.head? = some ⟨some ["u"], some [], true, .begun⟩)
      [.tick, .probe (some ["v"]) (some []) 0, .updated true true, .tick,
      .pause, .probe (some ["u"]) (some []) 1] (by decide +kernel) ?_
  intro loop reached latest restrained
  rcases List.head?_eq_some_iff.mp latest with ⟨past, ticks⟩
  unfold Restrained at restrained
  rw [ticks] at restrained
  cases (restrained _ past List.suffix_rfl nofun).unpaused

end TunnelLoop

end LubricantNodes.Agent
