import LubricantNodes.Agent.Loops

/-!
# A stopped phone stays stopped

An acknowledged STOP is meant to last until somebody asks for the phone again.  The
commands that stop and start a loop give up the lock in between, and so does the
prober between its choice of phones and their start; a STOP in such a window is
acknowledged and then undone.  It lasts as long as STOP is not carried out within such
a window, and nobody asks for the phone before it is acknowledged.
-/

namespace LubricantNodes.Agent

open Go Transition List

namespace Phones

variable {calendar : Calendar} {manager after : Phones}

/-! ## What STOP is for -/

/-- A phone whose STOP was acknowledged, and for which no START, RESTART, claim or attach
event has begun since, has no running loop. -/
def Silent (manager : Phones) : Prop :=
  ∀ (number : Nat) (phone : Phone), manager.phones[number]? = some phone →
    phone.silenced = true → ∀ loop ∈ manager.loops, loop.phone = number → loop.phase ≠ .running

/-! ## When it lasts -/

/-- The task is a STOP of the phone that is not acknowledged yet. -/
def hushes (number : Nat) : PhoneTask → Bool
  | .cancelling purpose phone _ | .waiting purpose phone _ => phone = number && purpose = .stop
  | .acking phone => phone = number
  | _ => false

/-- The task is going to start a loop of the phone. -/
def threatens (number : Nat) (udid : String) : PhoneTask → Bool
  | .pairing phone _ _ => phone = number
  | .cancelling purpose phone _ | .waiting purpose phone _ | .resuming purpose phone =>
    phone = number && purpose.relaunches
  | .probing udids => udids.any fun probed => trimSpace probed = udid
  | .acking _ | .collecting | .ended => false

/-- No STOP of the phone is in progress. -/
def Unhushed (manager : Phones) (number : Nat) : Prop :=
  ∀ task ∈ manager.tasks, hushes number task = false
  deriving Decidable

/-- No task is going to start a loop of the phone, and all its loops but the one of its
handle have ended. -/
def HandleOnly (manager : Phones) (number : Nat) (phone : Phone) : Prop :=
  (∀ task ∈ manager.tasks, threatens number phone.udid task = false) ∧
    ∀ entry ∈ manager.loops.zipIdx, entry.1.phone = number → entry.1.phase ≠ .finished →
      phone.cancel = some entry.2
  deriving Decidable

/-- What a command asks for may begin: STOP of such a phone, and everything
else while no STOP of the phone is in progress. -/
def MayBegin (manager : Phones) (number : Nat) : RunnerAction → Prop
  | .stop => ∀ phone ∈ manager.phones[number]?, manager.HandleOnly number phone
  | .start | .restart => manager.Unhushed number
  | .other _ => True

instance (manager : Phones) (number : Nat) (action : RunnerAction) :
    Decidable (manager.MayBegin number action) := by
  unfold MayBegin
  split <;> infer_instance

/-- What a task does next: RESTART finds its phone again, and the prober does not pick a
phone whose identifier leads to a stopped one. -/
def MayGoOn (manager : Phones) : PhoneTask → Prop
  | .resuming (.restart deviceId udid) phone =>
    ∀ number ∈ manager.findLocked deviceId udid, number = phone
  | .collecting =>
    ∀ phone ∈ manager.phones, phone.probed = true → ∀ other ∈ manager.phones,
      other.udid = trimSpace phone.udid → other.userStopped = false
  | _ => True

instance (manager : Phones) (task : PhoneTask) : Decidable (manager.MayGoOn task) := by
  delta MayGoOn
  cases task with
  | resuming purpose => cases purpose <;> infer_instance
  | _ => infer_instance

/-- STOP is not carried out in the middle of other commands, nothing asks for a phone
while its STOP is in progress, and waits end in time. -/
def Undisturbed : Discipline Phones PhoneEvent
  | manager, .control request =>
    ∀ number ∈ manager.findLocked request.deviceId request.udid,
      manager.MayBegin number request.action
  | manager, .claim request =>
    ∀ number ∈ manager.indexOf (trimSpace request.udid), manager.Unhushed number
  | manager, .attached udid => ∀ number ∈ manager.indexOf udid, manager.Unhushed number
  | manager, .startClaimed number =>
    manager.Unhushed number ∧ ∀ phone ∈ manager.phones[number]?, phone.silenced = false
  | manager, .advance number answer =>
    InTime manager (.advance number answer) ∧
      ∀ task ∈ manager.tasks[number]?, manager.MayGoOn task
  | _, _ => True

instance (manager : Phones) (event : PhoneEvent) : Decidable (Undisturbed manager event) := by
  delta Undisturbed
  rcases event with _ | _ <;> infer_instance

/-! ## The invariant -/

/-- The task is a STOP that waits for the end of a loop. -/
def spares (number loop : Nat) : PhoneTask → Bool
  | .cancelling purpose phone taken | .waiting purpose phone taken =>
    phone = number && purpose = .stop && taken = loop
  | _ => false

/-- What a STOP in progress, or one that lasts, has made sure of. -/
structure QuietAt (manager : Phones) (number : Nat) (grip : Grip) : Prop where
  hush : grip.silenced = true ∨ ¬manager.Unhushed number →
    grip.cancel = none ∧ grip.userStopped = true ∧
      ∀ task ∈ manager.tasks, threatens number grip.udid task = false
  done : grip.silenced = true ∨ PhoneTask.acking number ∈ manager.tasks →
    ∀ loop ∈ manager.loops, loop.phone = number → loop.phase = .finished
  rest : ∀ {taken : Nat}, (∃ task ∈ manager.tasks, spares number taken task = true) →
    ∀ {index : Nat} {loop : DeviceLoop}, manager.loops[index]? = some loop →
      loop.phone = number → loop.phase ≠ .finished → index = taken

/-- The grip of a phone, or that of a phone which was never seen. -/
def gripAt (manager : Phones) (number : Nat) : Grip :=
  manager.grips[number]?.getD { udid := "" }

/-- It is so for all phones. -/
def Quiet (manager : Phones) : Prop :=
  ∀ number, manager.QuietAt number (manager.gripAt number)

/-- Nothing has stopped the phone. -/
structure Loud (manager : Phones) (number : Nat) : Prop where
  heard : (manager.gripAt number).silenced = false
  unhushed : manager.Unhushed number

variable {number loop other index phone : Nat} {task : PhoneTask} {change : Phone → Phone}
  {purpose : Purpose} {answer : TaskAnswer}

theorem hushes_of_spares {taken : Nat}
    (sparing : spares number taken task = true) : hushes number task = true := by
  cases task with
  | cancelling | waiting =>
    simp only [spares, Bool.and_eq_true] at sparing
    exact Bool.and_eq_true_iff.mpr sparing.1
  | pairing | resuming | acking | collecting | probing | ended => cases sparing

@[simp]
theorem hushes_acking (number : Nat) : hushes number (.acking number) = true := decide_eq_true rfl

/-- Nothing is asked of a phone without a STOP. -/
theorem Loud.quietAt (loud : manager.Loud number) :
    manager.QuietAt number (manager.gripAt number) where
  hush := by
    rintro (silenced | hushed)
    · rw [loud.heard] at silenced
      cases silenced
    · cases hushed loud.unhushed
  done := by
    rintro (silenced | acking)
    · rw [loud.heard] at silenced
      cases silenced
    · have hushed := loud.unhushed _ acking
      rw [hushes_acking] at hushed
      cases hushed
  rest := by
    rintro taken ⟨task, member, sparing⟩
    have hushed := loud.unhushed task member
    rw [hushes_of_spares sparing] at hushed
    cases hushed

theorem loud_of_not_hushed
    (free : ¬((manager.gripAt number).silenced = true ∨ ¬manager.Unhushed number)) :
    manager.Loud number where
  heard := eq_false_of_ne_true fun silenced => free (.inl silenced)
  unhushed := by
    by_contra hushed
    exact free (.inr hushed)

/-- A phone that a task is going to start was not stopped. -/
theorem Quiet.loud (quiet : manager.Quiet) (member : task ∈ manager.tasks)
    (threat : threatens number (manager.gripAt number).udid task = true) : manager.Loud number := by
  apply loud_of_not_hushed
  intro hushed
  have safe := ((quiet number).hush hushed).2.2 task member
  rw [threat] at safe
  cases safe

/-- A phone with a handle was not stopped. -/
theorem Quiet.loud_of_handle (quiet : manager.Quiet)
    (held : (manager.gripAt number).cancel = some loop) : manager.Loud number := by
  apply loud_of_not_hushed
  intro hushed
  have free := ((quiet number).hush hushed).1
  rw [held] at free
  cases free

/-! ### Changes that start nothing -/

/-- A grip has changed, but not towards a running loop. -/
structure Subdued (before after : Grip) : Prop where
  udid : after.udid = before.udid
  cancel : before.cancel = none → after.cancel = none
  userStopped : before.userStopped = true → after.userStopped = true
  silenced : after.silenced = true → before.silenced = true

/-- Nothing has been added for a phone: neither a loop, nor a STOP, nor a start. -/
structure Inert (before after : Phones) (number : Nat) : Prop where
  grip : Subdued (before.gripAt number) (after.gripAt number)
  loops : ∀ {index : Nat} {loop : DeviceLoop}, after.loops[index]? = some loop →
    loop.phone = number → loop.phase ≠ .finished →
    ∃ old, before.loops[index]? = some old ∧ old.phone = number ∧ old.phase ≠ .finished
  hushes : before.Unhushed number → after.Unhushed number
  threatens : (∀ task ∈ before.tasks, threatens number (before.gripAt number).udid task = false) →
    ∀ task ∈ after.tasks, threatens number (before.gripAt number).udid task = false
  spares : ∀ taken, (∃ task ∈ after.tasks, spares number taken task = true) →
    ∃ task ∈ before.tasks, spares number taken task = true
  acking : PhoneTask.acking number ∈ after.tasks → PhoneTask.acking number ∈ before.tasks

theorem Subdued.refl (grip : Grip) : Subdued grip grip := ⟨rfl, id, id, id⟩

theorem Subdued.trans {first second third : Grip} (before : Subdued first second)
    (after : Subdued second third) : Subdued first third where
  udid := after.udid.trans before.udid
  cancel free := after.cancel (before.cancel free)
  userStopped stopped := after.userStopped (before.userStopped stopped)
  silenced silenced := before.silenced (after.silenced silenced)

theorem Inert.trans {first second third : Phones} (before : Inert first second number)
    (after : Inert second third number) : Inert first third number where
  grip := before.grip.trans after.grip
  loops := by
    intro index loop present owner alive
    rcases after.loops present owner alive with ⟨old, there, same, unfinished⟩
    exact before.loops there same unfinished
  hushes unhushed := after.hushes (before.hushes unhushed)
  threatens harmless := by
    have later := after.threatens
    rw [before.grip.udid] at later
    exact later (before.threatens harmless)
  spares taken sparing := before.spares taken (after.spares taken sparing)
  acking acking := before.acking (after.acking acking)

theorem QuietAt.inert (quiet : manager.QuietAt number (manager.gripAt number))
    (inert : Inert manager after number) : after.QuietAt number (after.gripAt number) where
  hush := by
    intro hushed
    have before : (manager.gripAt number).silenced = true ∨ ¬manager.Unhushed number :=
      hushed.imp inert.grip.silenced fun hushing unhushed => hushing (inert.hushes unhushed)
    rcases quiet.hush before with ⟨free, stopped, harmless⟩
    rw [inert.grip.udid]
    exact ⟨inert.grip.cancel free, inert.grip.userStopped stopped, inert.threatens harmless⟩
  done := by
    intro settled loop member owner
    by_contra alive
    rcases mem_iff_getElem?.mp member with ⟨index, present⟩
    rcases inert.loops present owner alive with ⟨old, there, phone, unfinished⟩
    have before := settled.imp inert.grip.silenced inert.acking
    exact unfinished (quiet.done before old (mem_of_getElem? there) phone)
  rest := by
    intro taken sparing index loop present owner alive
    rcases inert.loops present owner alive with ⟨old, there, phone, unfinished⟩
    exact quiet.rest (inert.spares taken sparing) there phone unfinished

theorem Quiet.inert (quiet : manager.Quiet) (inert : ∀ number, Inert manager after number) :
    after.Quiet :=
  fun number => (quiet number).inert (inert number)

/-- One phone is looked at, and nothing is added for the others. -/
theorem Quiet.focus (quiet : manager.Quiet) (here : after.QuietAt number (after.gripAt number))
    (elsewhere : ∀ other, other ≠ number → Inert manager after other) : after.Quiet := by
  intro other
  by_cases same : other = number
  · rw [same]
    exact here
  · exact (quiet other).inert (elsewhere other same)

/-! ### Grips after a change -/

theorem gripAt_of_present {phone : Phone}
    (present : manager.phones[number]? = some phone) : manager.gripAt number = phone.grip := by
  unfold gripAt grips
  rw [getElem?_map, present]
  rfl

theorem gripAt_of_absent (absent : manager.phones[number]? = none) :
    manager.gripAt number = { udid := "" } := by
  unfold gripAt grips
  rw [getElem?_map, absent]
  rfl

theorem gripAt_edit_of_ne (different : other ≠ number) (change : Phone → Phone) :
    (manager.edit number change).gripAt other = manager.gripAt other := by
  unfold gripAt grips edit
  rw [getElem?_map, getElem?_map, getElem?_modify]
  simp [different.symm]

/-- A relation of grips that a change keeps for every phone. -/
theorem gripAt_edit_related (related : Grip → Grip → Prop) (reflexive : ∀ grip, related grip grip)
    (changes : ∀ phone : Phone, related phone.grip (change phone).grip) (number other : Nat) :
    related (manager.gripAt other) ((manager.edit number change).gripAt other) := by
  by_cases same : other = number
  · subst same
    cases found : manager.phones[other]? with
    | none =>
      have absent : (manager.edit other change).phones[other]? = none := by
        unfold edit
        rw [getElem?_modify, found]
        rfl
      rw [gripAt_of_absent found, gripAt_of_absent absent]
      exact reflexive _
    | some phone =>
      rw [gripAt_of_present found, gripAt_of_present (getElem?_edit_self found change)]
      exact changes phone
  · rw [gripAt_edit_of_ne same]
    exact reflexive _

/-! ### Inert operations -/

/-- Grips change, and nothing else does. -/
theorem inert_of_subdued (grip : Subdued (manager.gripAt number) (after.gripAt number))
    (loops : after.loops = manager.loops) (tasks : after.tasks = manager.tasks) :
    Inert manager after number where
  grip := grip
  loops := by
    intro index loop present owner alive
    rw [loops] at present
    exact ⟨loop, present, owner, alive⟩
  hushes := by
    unfold Unhushed
    rw [tasks]
    exact id
  threatens := by
    rw [tasks]
    exact id
  spares := by
    rw [tasks]
    exact fun _ => id
  acking := by
    rw [tasks]
    exact id

theorem inert_of_alike (alike : Alike manager after) : Inert manager after number := by
  apply inert_of_subdued _ alike.loops alike.tasks
  unfold gripAt
  rw [alike.grips]
  exact .refl _

theorem inert_edit_of_ne (different : other ≠ number)
    (change : Phone → Phone) : Inert manager (manager.edit number change) other := by
  refine inert_of_subdued ?_ rfl rfl
  rw [gripAt_edit_of_ne different]
  exact .refl _

/-- A change of a phone that does not lead towards a running loop. -/
theorem inert_edit (changes : ∀ phone : Phone, Subdued phone.grip (change phone).grip)
    (number other : Nat) : Inert manager (manager.edit number change) other :=
  inert_of_subdued (gripAt_edit_related Subdued Subdued.refl changes number other) rfl rfl

/-- Loops change, but none is added and none comes back. -/
theorem inert_of_loops (grips : after.grips = manager.grips) (tasks : after.tasks = manager.tasks)
    (loops : ∀ {index : Nat} {loop : DeviceLoop}, after.loops[index]? = some loop →
      loop.phone = number → loop.phase ≠ .finished →
      ∃ old, manager.loops[index]? = some old ∧ old.phone = number ∧ old.phase ≠ .finished) :
    Inert manager after number := by
  have rest : Inert manager { after with loops := manager.loops } number :=
    inert_of_alike ⟨grips, rfl, tasks⟩
  exact ⟨rest.grip, loops, rest.hushes, rest.threatens, rest.spares, rest.acking⟩

theorem unhushed_spawn (unhushed : manager.Unhushed number)
    (silent : hushes number task = false) : (manager.spawn task).Unhushed number := by
  exact forall_mem_append.mpr ⟨unhushed, forall_mem_singleton.mpr silent⟩

theorem inert_spawn (silent : hushes number task = false)
    (harmless : threatens number (manager.gripAt number).udid task = false) :
    Inert manager (manager.spawn task) number where
  grip := .refl _
  loops present owner alive := ⟨_, present, owner, alive⟩
  hushes unhushed := unhushed_spawn unhushed silent
  threatens := by
    intro safe
    exact forall_mem_append.mpr ⟨safe, forall_mem_singleton.mpr harmless⟩
  spares := by
    rintro taken ⟨other, member, sparing⟩
    rcases mem_append.mp member with old | new
    · exact ⟨other, old, sparing⟩
    · rw [mem_singleton.mp new] at sparing
      rw [hushes_of_spares sparing] at silent
      cases silent
  acking := by
    intro member
    rcases mem_append.mp member with old | new
    · exact old
    · rw [← mem_singleton.mp new, hushes_acking] at silent
      cases silent

/-- A task goes on with something that is no more than what it was about. -/
theorem inert_setTask {next : PhoneTask} (present : manager.tasks[index]? = some task)
    (silent : hushes number next = true → hushes number task = true)
    (harmless : threatens number (manager.gripAt number).udid next = true →
      threatens number (manager.gripAt number).udid task = true)
    (patient : ∀ taken, spares number taken next = true → spares number taken task = true)
    (unsaid : next ≠ .acking number) : Inert manager (manager.setTask index next) number where
  grip := .refl _
  loops present owner alive := ⟨_, present, owner, alive⟩
  hushes := by
    intro unhushed other member
    rcases mem_or_eq_of_mem_set member with old | rfl
    · exact unhushed other old
    · apply eq_false_of_ne_true
      intro hushing
      have hushed := silent hushing
      rw [unhushed task (mem_of_getElem? present)] at hushed
      cases hushed
  threatens := by
    intro safe other member
    rcases mem_or_eq_of_mem_set member with old | rfl
    · exact safe other old
    · apply eq_false_of_ne_true
      intro threat
      have threatening := harmless threat
      rw [safe task (mem_of_getElem? present)] at threatening
      cases threatening
  spares := by
    rintro taken ⟨other, member, sparing⟩
    rcases mem_or_eq_of_mem_set member with old | rfl
    · exact ⟨other, old, sparing⟩
    · exact ⟨task, mem_of_getElem? present, patient taken sparing⟩
  acking := by
    intro member
    rcases mem_or_eq_of_mem_set member with old | rfl
    · exact old
    · cases unsaid rfl

/-- A task ends. -/
theorem inert_setTask_ended (present : manager.tasks[index]? = some task) (number : Nat) :
    Inert manager (manager.setTask index .ended) number := by
  apply inert_setTask present
  · rintro ⟨⟩
  · rintro ⟨⟩
  · rintro _ ⟨⟩
  · rintro ⟨⟩

theorem inert_startDeviceLocked (different : other ≠ number) :
    Inert manager (manager.startDeviceLocked number) other := by
  unfold startDeviceLocked
  split
  · exact inert_of_alike (.refl manager)
  split_ifs
  · exact inert_of_alike (.refl manager)
  apply (inert_edit_of_ne different _).trans
  refine inert_of_loops rfl rfl ?_
  intro index loop present owner alive
  rcases getElem?_concat_eq_some_iff.mp present with old | ⟨_, rfl⟩
  · exact ⟨loop, old, owner, alive⟩
  · cases different owner.symm

theorem Starts.inert (starts : Starts manager number after) (different : other ≠ number) :
    Inert manager after other := by
  cases starts with
  | none alike => exact inert_of_alike alike
  | loop change _ alike =>
    apply Inert.trans _ (inert_of_alike alike)
    exact (inert_edit_of_ne different change).trans (inert_startDeviceLocked different)

/-- The task that a command leaves is about its own phone. -/
theorem inert_dismiss (different : other ≠ number) (purpose : Purpose)
    (handle : Option Nat) : Inert manager (manager.dismiss purpose number handle) other := by
  have apart : decide (number = other) = false := decide_eq_false different.symm
  unfold dismiss
  split
  · apply inert_spawn
    · simp [hushes, apart]
    · simp [threatens, apart]
  split
  · apply inert_spawn
    · exact apart
    · rfl
  · apply inert_spawn
    · rfl
    · simp [threatens, apart]
  · exact inert_of_alike (alike_sendAck manager none)
  · exact inert_of_alike (alike_sendAck manager none)

theorem Halted.inert (halted : Halted manager purpose number after) (different : other ≠ number) :
    Inert manager after other := by
  cases halted with
  | none alike => exact inert_of_alike alike
  | halt _ alike =>
    apply Inert.trans _ (inert_of_alike alike)
    exact (inert_edit_of_ne different _).trans (inert_dismiss different _ _)

/-! ### Loud phones -/

theorem Loud.inert (loud : manager.Loud number) (inert : Inert manager after number) :
    after.Loud number where
  heard := by
    apply eq_false_of_ne_true
    intro silenced
    have before := inert.grip.silenced silenced
    rw [loud.heard] at before
    cases before
  unhushed := inert.hushes loud.unhushed

/-- A change of a phone that silences nobody. -/
theorem Loud.edit (loud : manager.Loud other) (number : Nat)
    (same : ∀ phone : Phone, (change phone).grip.silenced = phone.grip.silenced) :
    (manager.edit number change).Loud other where
  heard := by
    have kept : ((manager.edit number change).gripAt other).silenced =
        (manager.gripAt other).silenced := by
      apply gripAt_edit_related fun before after => after.silenced = before.silenced
      · intro grip
        rfl
      · exact same
    rw [kept]
    exact loud.heard
  unhushed := loud.unhushed

/-- A phone is asked for while no STOP of it is in progress. -/
theorem loud_edit (unhushed : manager.Unhushed number)
    (heard : ∀ phone, (change phone).silenced = false) :
    (manager.edit number change).Loud number where
  heard := by
    cases found : (manager.edit number change).phones[number]? with
    | none => rw [gripAt_of_absent found]
    | some =>
      rcases getElem?_modify_eq_some_iff.mp found with ⟨old, _, rfl⟩
      rw [gripAt_of_present found, if_pos rfl]
      exact heard old
  unhushed := unhushed

theorem loud_endSilence (unhushed : manager.Unhushed number) :
    (manager.endSilence number).Loud number :=
  loud_edit unhushed fun _ => rfl

theorem Loud.startDeviceLocked (loud : manager.Loud number) :
    (manager.startDeviceLocked number).Loud number := by
  unfold Phones.startDeviceLocked
  split
  · exact loud
  split_ifs
  · exact loud
  · have edited : (manager.edit number fun phone =>
        { phone with cancel := some manager.loops.length }).Loud number :=
      loud.edit number fun _ => rfl
    exact ⟨edited.heard, edited.unhushed⟩

theorem Loud.starts (loud : manager.Loud number) (starts : Starts manager number after) :
    after.Loud number := by
  cases starts with
  | none alike => exact loud.inert (inert_of_alike alike)
  | loop change kept alike =>
    have edited := loud.edit number fun phone => (kept phone).2
    exact edited.startDeviceLocked.inert (inert_of_alike alike)

theorem Starts.unhushed (starts : Starts manager number after) (unhushed : manager.Unhushed other) :
    after.Unhushed other := by
  unfold Unhushed
  cases starts with
  | none alike =>
    rw [alike.tasks]
    exact unhushed
  | loop change _ alike =>
    rw [alike.tasks]
    unfold Phones.startDeviceLocked
    split
    · exact unhushed
    · split_ifs <;> exact unhushed

/-- Only STOP leaves a task that stops the phone. -/
theorem unhushed_dismiss (unhushed : manager.Unhushed other) (kind : purpose ≠ .stop)
    (handle : Option Nat) : (manager.dismiss purpose number handle).Unhushed other := by
  unfold Phones.dismiss
  split
  · apply unhushed_spawn unhushed
    simp [hushes, kind]
  split
  · cases kind rfl
  · exact unhushed_spawn unhushed rfl
  · exact unhushed
  · exact unhushed

theorem Halted.unhushed (halted : Halted manager purpose number after) (kind : purpose ≠ .stop)
    (unhushed : manager.Unhushed other) : after.Unhushed other := by
  unfold Unhushed
  cases halted with
  | none alike =>
    rw [alike.tasks]
    exact unhushed
  | halt _ alike =>
    rw [alike.tasks]
    apply unhushed_dismiss _ kind
    exact unhushed

theorem cancel_gripAt (manager : Phones) (number : Nat) :
    (manager.gripAt number).cancel = manager.handle number := by
  unfold gripAt grips handle
  rw [getElem?_map]
  cases manager.phones[number]? <;> rfl

/-- Loops of such a phone that have not ended are the one of its handle. -/
theorem HandleOnly.handle {phone : Phone} {loop : DeviceLoop}
    (alone : manager.HandleOnly number phone)
    (present : manager.loops[index]? = some loop) (owner : loop.phone = number)
    (alive : loop.phase ≠ .finished) : phone.cancel = some index :=
  alone.2 (loop, index) (mem_zipIdx_iff_getElem?.mpr present) owner alive

/-- The cancel function of a loop is called. -/
theorem inert_cancel (manager : Phones) (index number : Nat) : Inert manager { manager with
      loops := manager.loops.modify index fun loop => { loop with cancelled := true } } number := by
  refine inert_of_loops rfl rfl ?_
  intro other loop present owner alive
  rcases getElem?_modify_eq_some_iff.mp present with ⟨old, there, rfl⟩
  refine ⟨old, there, ?_⟩
  split_ifs at owner alive <;> exact ⟨owner, alive⟩

theorem exists_of_userStopped (stopped : (manager.gripAt number).userStopped = true) :
    ∃ phone ∈ manager.phones, phone.grip = manager.gripAt number := by
  cases found : manager.phones[number]? with
  | none =>
    rw [gripAt_of_absent found] at stopped
    cases stopped
  | some phone => exact ⟨phone, mem_of_getElem? found, (gripAt_of_present found).symm⟩

theorem udid_of_findLocked {udid : String} (found : manager.findLocked "" udid = some number) :
    (manager.gripAt number).udid = trimSpace udid := by
  rcases findIdx?_eq_some_iff_getElem.mp (indexOf_of_findLocked found) with ⟨inside, same, _⟩
  rw [gripAt_of_present (getElem?_eq_getElem inside)]
  exact of_decide_eq_true same

/-- The prober goes on to the next phone. -/
theorem inert_probed {udid : String} {rest : List String}
    (present : manager.tasks[index]? = some (.probing (udid :: rest))) (number : Nat) :
    Inert manager (manager.setTask index (.probing rest)) number := by
  apply inert_setTask present
  · rintro ⟨⟩
  · intro threat
    exact any_cons.trans (Bool.or_eq_true_iff.mpr (.inr threat))
  · rintro _ ⟨⟩
  · rintro ⟨⟩

/-- A loop that has not ended makes progress. -/
theorem inert_progress {loop : DeviceLoop} (phase : LoopPhase)
    (present : manager.loops[index]? = some loop) (alive : loop.phase ≠ .finished) (number : Nat) :
    Inert manager { manager with loops := manager.loops.set index { loop with phase := phase } }
      number := by
  refine inert_of_loops rfl rfl ?_
  intro other found there owner unfinished
  rcases of_getElem?_set_eq_some there with ⟨rfl, rfl⟩ | ⟨_, old⟩
  · exact ⟨loop, present, owner, alive⟩
  · exact ⟨found, old, owner, unfinished⟩

/-! ### Commands -/

section KeepingQuiet

variable (quiet : manager.Quiet)

include quiet

theorem Quiet.alike (alike : Alike manager after) : after.Quiet :=
  quiet.inert fun _ => inert_of_alike alike

/-- The silence of a phone ends while no STOP of it is in progress. -/
theorem Quiet.endSilence (unhushed : manager.Unhushed number) : (manager.endSilence number).Quiet :=
  quiet.focus (loud_endSilence unhushed).quietAt fun _ different => inert_edit_of_ne different _

section DroppedHandles

variable (drops : ∀ phone, (change phone).grip = { phone.grip with cancel := none })

include drops

/-- The handle of a phone is taken. -/
theorem Quiet.drop (number : Nat) : (manager.edit number change).Quiet := by
  apply quiet.inert
  apply inert_edit
  intro phone
  rw [drops]
  exact ⟨rfl, fun _ => rfl, id, id⟩

theorem Quiet.release (handle : Option Nat) :
    ((manager.edit number change).dismiss .release number handle).Quiet := by
  have edited := quiet.drop drops number
  cases handle with
  | none => exact edited.alike (alike_sendAck _ none)
  | some =>
    apply edited.inert
    intro other
    apply inert_spawn
    · simp [hushes]
    · simp [threatens, Purpose.relaunches]

theorem Quiet.configure :
    ((manager.edit number change).dismiss .configure number (manager.handle number)).Quiet := by
  cases held : manager.handle number with
  | none => exact (quiet.drop drops number).alike (alike_sendAck _ none)
  | some =>
    have loud : manager.Loud number :=
      quiet.loud_of_handle ((cancel_gripAt manager number).trans held)
    have edited : (manager.edit number change).Loud number := by
      apply loud.edit
      intro phone
      rw [drops]
    apply quiet.focus
    · apply Loud.quietAt
      exact ⟨edited.heard, unhushed_spawn edited.unhushed (Bool.and_false _)⟩
    · intro other different
      exact (inert_edit_of_ne different _).trans (inert_dismiss different _ _)

end DroppedHandles

/-- STOP takes the handle of a phone that has no other loop, and leaves a task that waits for
the only loop there is, or acknowledges the end of all. -/
theorem quietAt_stopped {phone : Phone} (present : manager.phones[number]? = some phone)
    (harmless : ∀ task ∈ manager.tasks, threatens number phone.udid task = false)
    (itself : threatens number phone.udid task = false) (ended : task = .acking number →
      ∀ loop ∈ manager.loops, loop.phone = number → loop.phase = .finished)
    (only : ∀ {taken : Nat}, spares number taken task = true →
      ∀ {index : Nat} {loop : DeviceLoop}, manager.loops[index]? = some loop →
      loop.phone = number → loop.phase ≠ .finished → index = taken) :
    ((manager.edit number (Phone.halt true)).spawn task).QuietAt number (phone.halt true).grip := by
  have before := quiet number
  rw [gripAt_of_present present] at before
  constructor
  · intro _
    refine ⟨rfl, rfl, ?_⟩
    exact forall_mem_append.mpr ⟨harmless, forall_mem_singleton.mpr itself⟩
  · intro settled
    rcases settled with silenced | acking
    · exact before.done (.inl silenced)
    · rcases mem_append.mp acking with old | new
      · exact before.done (.inr old)
      · exact ended (mem_singleton.mp new).symm
  · rintro taken ⟨other, member, sparing⟩
    rcases mem_append.mp member with old | new
    · exact before.rest ⟨other, old, sparing⟩
    · rw [mem_singleton.mp new] at sparing
      exact only sparing

theorem Quiet.stop (settled : manager.MayBegin number .stop)
    (halted : Halted manager .stop number after) : after.Quiet := by
  apply Quiet.focus quiet _ fun _ different => halted.inert different
  cases halted with
  | none alike => exact quiet.alike alike number
  | @halt phone present alike =>
    have alone : manager.HandleOnly number phone := settled phone present
    have grip : ∀ task, ((manager.edit number (Phone.halt true)).spawn task).gripAt number =
        (phone.halt true).grip := fun _ =>
      gripAt_of_present (getElem?_edit_self present (Phone.halt true))
    apply QuietAt.inert _ (inert_of_alike alike)
    cases held : phone.cancel with
    | none =>
      refine (grip (.acking number)).symm ▸ quietAt_stopped quiet present alone.1 rfl ?_ ?_
      · intro _ loop member owner
        by_contra alive
        rcases mem_iff_getElem?.mp member with ⟨index, there⟩
        have handle := alone.handle there owner alive
        rw [held] at handle
        cases handle
      · rintro _ ⟨⟩
    | some loop =>
      refine (grip (.cancelling .stop number loop)).symm ▸
        quietAt_stopped quiet present alone.1 (Bool.and_false _) ?_ ?_
      · rintro ⟨⟩
      · intro taken sparing index found there owner alive
        simp only [spares, Bool.and_eq_true, decide_eq_true_eq] at sparing
        have handle := alone.handle there owner alive
        rw [held, sparing.2] at handle
        exact (Option.some.inj handle).symm

/-! ### Tasks -/

theorem Quiet.starts (loud : manager.Loud number) (starts : Starts manager number after) :
    after.Quiet :=
  quiet.focus (loud.starts starts).quietAt fun _ different => starts.inert different

/-- The loop that STOP has waited for was the only one. -/
theorem Quiet.acking (present : manager.tasks[index]? = some (.waiting .stop phone loop))
    (finished : manager.isFinished loop = true) :
    (manager.setTask index (.acking phone)).Quiet := by
  have waiting := mem_of_getElem? present
  apply quiet.focus
  · constructor
    · intro _
      have hushed : ¬manager.Unhushed phone := by
        intro unhushed
        have silent := unhushed _ waiting
        simp [hushes] at silent
      rcases (quiet phone).hush (.inr hushed) with ⟨free, stopped, harmless⟩
      refine ⟨free, stopped, ?_⟩
      intro task member
      rcases mem_or_eq_of_mem_set member with old | rfl
      · exact harmless task old
      · rfl
    · intro _ found member owner
      by_contra alive
      rcases mem_iff_getElem?.mp member with ⟨number, there⟩
      have same : number = loop := by
        apply (quiet phone).rest ⟨_, waiting, _⟩ there owner alive
        simp [spares]
      rw [same] at there
      exact alive (finished_of_isFinished finished there)
    · rintro taken ⟨task, member, sparing⟩
      rcases mem_or_eq_of_mem_set member with old | rfl
      · exact (quiet phone).rest ⟨task, old, sparing⟩
      · cases sparing
  · intro other different
    have apart : decide (phone = other) = false := decide_eq_false different.symm
    apply inert_setTask present
    · intro absurd
      rw [hushes, apart] at absurd
      cases absurd
    · rintro ⟨⟩
    · rintro _ ⟨⟩
    · intro same
      cases same
      exact different rfl

theorem Quiet.waiting (present : manager.tasks[index]? = some (.waiting purpose phone loop))
    (finished : manager.isFinished loop = true) :
    (manager.setTask index (afterWait purpose phone)).Quiet := by
  have resuming : ∀ again : Purpose, purpose = again → (manager.setTask index
      (.resuming again phone)).Quiet := by
    rintro again rfl
    apply quiet.inert
    intro number
    apply inert_setTask present
    · rintro ⟨⟩
    · exact id
    · rintro _ ⟨⟩
    · rintro ⟨⟩
  cases purpose with
  | stop => exact quiet.acking present finished
  | restart | configure => exact resuming _ rfl
  | release => exact quiet.inert (inert_setTask_ended present)

/-- A STOP is acknowledged. -/
theorem Quiet.acknowledge (present : manager.tasks[index]? = some (.acking phone)) :
    ((manager.setTask index .ended).edit phone fun phone =>
      { phone with silenced := true }).Quiet := by
  have acking := mem_of_getElem? present
  have ended := quiet.inert (inert_setTask_ended present)
  refine Quiet.focus ended (?_ : QuietAt _ phone _) ?_
  · have hushed : ¬manager.Unhushed phone := by
      intro unhushed
      have silent := unhushed _ acking
      rw [hushes_acking] at silent
      cases silent
    rcases (quiet phone).hush (.inr hushed) with ⟨free, stopped, harmless⟩
    -- The note that a STOP was acknowledged changes nothing else.
    rcases @gripAt_edit_related (manager.setTask index .ended) (fun phone =>
        { phone with silenced := true }) (fun before after => after.udid = before.udid ∧
        after.cancel = before.cancel ∧ after.userStopped = before.userStopped)
      (fun _ => ⟨rfl, rfl, rfl⟩) (fun _ => ⟨rfl, rfl, rfl⟩) phone phone with
      ⟨udid, cancel, userStopped⟩
    constructor
    · intro _
      rw [udid, cancel, userStopped]
      exact ⟨free, stopped, (inert_setTask_ended present phone).threatens harmless⟩
    · intro _
      exact (quiet phone).done (.inr acking)
    · exact (ended phone).rest
  · intro other different
    exact inert_edit_of_ne different _

/-- The prober collects no phone whose identifier leads to a stopped one. -/
theorem Quiet.collecting (present : manager.tasks[index]? = some .collecting)
    (mayGoOn : manager.MayGoOn .collecting) :
    (manager.setTask index (.probing
      ((manager.phones.filter fun phone => phone.probed).map fun phone => phone.udid))).Quiet := by
  intro number
  by_cases free : (manager.gripAt number).silenced = true ∨ ¬manager.Unhushed number
  · have stopped := ((quiet number).hush free).2.1
    apply (quiet number).inert
    apply inert_setTask present
    · rintro ⟨⟩
    · intro threat
      rcases any_eq_true.mp threat with ⟨udid, member, leads⟩
      rcases mem_map.mp member with ⟨probed, chosen, rfl⟩
      rcases mem_filter.mp chosen with ⟨listed, wanted⟩
      rcases exists_of_userStopped stopped with ⟨phone, known, grip⟩
      rw [← grip] at stopped leads
      have started : phone.userStopped = false :=
        mayGoOn probed listed wanted phone known (of_decide_eq_true leads).symm
      have halted : phone.userStopped = true := stopped
      rw [started] at halted
      cases halted
    · rintro _ ⟨⟩
    · rintro ⟨⟩
  · have loud := loud_of_not_hushed free
    apply Loud.quietAt
    constructor
    · exact loud.heard
    · intro task member
      rcases mem_or_eq_of_mem_set member with old | rfl
      · exact loud.unhushed task old
      · rfl

theorem Quiet.turn (present : manager.tasks[index]? = some task)
    (inTime : InTime manager (.advance index answer)) (mayGoOn : manager.MayGoOn task)
    (turn : Turn manager after index answer task) : after.Quiet := by
  have member := mem_of_getElem? present
  have inert := inert_setTask_ended present
  have ended := quiet.inert inert
  cases turn with
  | pairing starts =>
    exact ended.starts ((quiet.loud member (decide_eq_true rfl)).inert (inert _)) starts
  | @cancelling purpose phone loop alike =>
    refine Quiet.alike ?_ alike
    apply (quiet.inert (inert_cancel manager loop)).inert
    intro number
    split_ifs
    · apply inert_setTask_ended
      exact present
    · apply inert_setTask
      · exact present
      · exact id
      · exact id
      · intro _
        exact id
      · rintro ⟨⟩
  | @waiting purpose phone loop isOver alike =>
    refine Quiet.alike (quiet.waiting present ?_) alike
    rcases isOver with timedOut | closed
    · exact inTime _ present loop rfl timedOut
    · exact closed
  | reconfigure starts =>
    have loud := quiet.loud member (Bool.and_eq_true_iff.mpr ⟨decide_eq_true rfl, rfl⟩)
    exact ended.starts (loud.inert (inert _)) starts
  | relaunch found starts =>
    rw [mayGoOn _ found] at starts
    have loud := quiet.loud member (Bool.and_eq_true_iff.mpr ⟨decide_eq_true rfl, rfl⟩)
    exact ended.starts (loud.inert (inert _)) starts
  | resumed alike | probed alike => exact ended.alike alike
  | acking alike => exact (quiet.acknowledge present).alike alike
  | collecting alike => exact (quiet.collecting present mayGoOn).alike alike
  | @probing udid rest phone found starts =>
    -- The prober starts a phone that was not stopped.
    have loud : manager.Loud phone := by
      apply quiet.loud member
      rw [udid_of_findLocked found]
      simp [threatens]
    have probed := loud.inert (inert_probed present phone)
    exact (quiet.inert (inert_probed present)).starts probed starts
  | pass alike => exact (quiet.inert (inert_probed present)).alike alike

/-! ### Every step -/

/-- A phone that was never seen is not being stopped. -/
theorem Quiet.found {fresh : List Grip} (grips : after.grips = manager.grips ++ fresh)
    (blank : ∀ grip ∈ fresh, grip = { udid := grip.udid }) (loops : after.loops = manager.loops)
    (tasks : after.tasks = manager.tasks) : after.Quiet := by
  intro number
  by_cases inside : number < manager.grips.length
  · apply (quiet number).inert
    apply inert_of_subdued _ loops tasks
    unfold gripAt
    rw [grips, getElem?_append_left inside]
    exact .refl _
  have outside := Nat.le_of_not_lt inside
  apply Loud.quietAt
  constructor
  · unfold gripAt
    rw [grips, getElem?_append_right outside]
    cases there : fresh[number - manager.grips.length]? with
    | none => rfl
    | some grip =>
      rw [blank grip (mem_of_getElem? there)]
      rfl
  · unfold Unhushed
    rw [tasks]
    by_contra hushed
    have stopped := ((quiet number).hush (.inr hushed)).2.1
    unfold gripAt at stopped
    rw [getElem?_eq_none outside] at stopped
    cases stopped

theorem Quiet.step {event : PhoneEvent} (undisturbed : Undisturbed manager event)
    (stepped : step calendar manager event = some after) : after.Quiet := by
  cases step_moves stepped with
  | keep alike => exact quiet.alike alike
  | claim found alike => exact (quiet.endSilence (undisturbed _ found)).alike alike
  | reserve found name alike =>
    refine Quiet.alike ?_ alike
    apply quiet.focus
    · apply Loud.quietAt
      have loud := loud_endSilence (undisturbed _ found)
      exact ⟨loud.heard, unhushed_spawn loud.unhushed rfl⟩
    · intro other different
      apply (inert_edit_of_ne different _).trans
      apply inert_spawn
      · rfl
      · exact decide_eq_false different.symm
  | release _ drops alike => exact (quiet.release drops _).alike alike
  | configure _ drops alike => exact (quiet.configure drops).alike alike
  | start action found starts alike =>
    have mayBegin := undisturbed _ found
    rw [action] at mayBegin
    refine Quiet.alike ?_ alike
    apply quiet.focus
    · exact (loud_endSilence (starts.unhushed mayBegin)).quietAt
    · intro other different
      exact (starts.inert different).trans (inert_edit_of_ne different _)
  | stop action found halted =>
    have mayBegin := undisturbed _ found
    rw [action] at mayBegin
    exact quiet.stop mayBegin halted
  | restart action found halted alike =>
    have mayBegin := undisturbed _ found
    rw [action] at mayBegin
    refine Quiet.alike ?_ alike
    apply quiet.focus
    · exact (loud_endSilence (halted.unhushed (by rintro ⟨⟩) mayBegin)).quietAt
    · intro other different
      exact (halted.inert different).trans (inert_edit_of_ne different _)
  | @startClaimed number starts =>
    rcases undisturbed with ⟨unhushed, heard⟩
    refine quiet.starts ⟨?_, unhushed⟩ starts
    cases present : manager.phones[number]? with
    | none => rw [gripAt_of_absent present]
    | some phone =>
      rw [gripAt_of_present present]
      exact heard phone present
  | attached found alike =>
    refine Quiet.alike ?_ alike
    apply quiet.focus
    · exact (loud_edit (undisturbed _ found) fun _ => rfl).quietAt
    · intro other different
      exact inert_edit_of_ne different _
  | found grips blank loops tasks =>
    have seen : Quiet { after with tasks := manager.tasks } := quiet.found grips blank loops rfl
    have spawned : (spawn { after with tasks := manager.tasks } .collecting).Quiet :=
      seen.inert fun _ => inert_spawn rfl rfl
    exact spawned.alike ⟨rfl, rfl, tasks⟩
  | returns present alive alike | record present alive alike =>
    exact (quiet.inert (inert_progress _ present alive)).alike alike
  | advance present turn =>
    rcases undisturbed with ⟨inTime, mayGoOn⟩
    exact quiet.turn present inTime (mayGoOn _ present) turn

end KeepingQuiet

/-! ## Every run -/

theorem quiet_new (configDir : String) (configs : List DeviceConfig) :
    (new configDir configs).Quiet := by
  intro number
  apply Loud.quietAt
  constructor
  · cases found : (new configDir configs).phones[number]? with
    | none => rw [gripAt_of_absent found]
    | some =>
      rw [gripAt_of_present found]
      rcases exists_config_of_mem_new (mem_of_getElem? found) with ⟨config, rfl⟩
      rfl
  · intro task member
    rw [(kept_new ..).2] at member
    cases member

theorem Quiet.silent (quiet : manager.Quiet) : manager.Silent := by
  intro number phone present silenced loop member owner running
  have facts := quiet number
  rw [gripAt_of_present present] at facts
  rw [facts.done (.inl silenced) loop member owner] at running
  cases running

/-- As long as STOP is not carried out in the middle of other commands, nothing asks for
a phone while its STOP is in progress and waits end in time, a STOP lasts. -/
theorem stop_lasts {configDir : String} {configs : List DeviceConfig}
    (reached : Reaches (step calendar) Undisturbed (new configDir configs) manager) :
    manager.Silent := by
  have quiet : manager.Quiet := by
    apply reached.invariant (P := Quiet) (quiet_new configDir configs)
    intro _ _ _ _ quiet undisturbed stepped
    exact quiet.step undisturbed stepped
  exact quiet.silent

/-! ## Samples -/

/-- A phone is stopped, and a probe, new settings and a further STOP change nothing. -/
theorem stop_lasts_probed : ∃ manager, Reaches (step noDates) Undisturbed (new "" []) manager ∧
      (manager.phones.map Phone.silenced = [true] ∧
        manager.loops.map DeviceLoop.phase = [.finished]) ∧ manager.Silent := by
  refine exists_reaches_and_of_run
      (connected ++ [command .stop, .advance 2 {}, .returns 0 none, .record 0 false,
        .advance 2 {}, .advance 2 {}, .snapshot [("u", "phone")] 0, .advance 3 {}, .advance 3 {},
        .configure ⟨"", "u", "lan", "", "", 0, 0, 2⟩, command .stop, .advance 4 {}])
      (by decide +kernel) ?_
  intro manager reached _
  exact stop_lasts reached

/-- New settings have taken the handle when STOP comes: it is acknowledged, and the loop
is started again. -/
theorem stop_undone :
    ∃ manager, Reaches (step noDates) InTime (new "" []) manager ∧ ¬manager.Silent := by
  refine exists_reaches_imp_of_run (fun manager =>
        manager.phones[0]?.map Phone.silenced = some true ∧ manager.loops[1]? = some { phone := 0 })
      (connected ++ [.configure ⟨"", "u", "lan", "", "", 0, 0, 2⟩, command .stop, .advance 3 {},
        .advance 2 {}, .returns 0 none, .record 0 false, .advance 2 {}, .advance 2 {}])
      (by decide +kernel) ?_
  rintro manager reached ⟨acknowledged, running⟩ silent
  rcases Option.map_eq_some_iff.mp acknowledged with ⟨phone, present, silenced⟩
  exact silent 0 phone present silenced _ (mem_of_getElem? running) rfl rfl

end Phones

end LubricantNodes.Agent
