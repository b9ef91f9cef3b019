import LubricantNodes.Go.Context
import LubricantNodes.Go.Strings
import LubricantNodes.Transition.Core

/-!
# Long work and the contexts it runs under

A node runs builds, Xcode installs, jobs that prepare an attached phone, and the
connection loops of claimed phones.  All of them outlast the frame that started
them, and each runs under contexts of its own.  The control stream has a context
too: `serve` makes it when the stream opens and cancels it when the stream ends.

This module has the contexts, what holds of them in every state, and the three
job runners; `LubricantNodes.Agent.Streams` has the connection loops and the
system as a whole.
-/

namespace LubricantNodes.Agent

open Go List Contexts

/-! ## Contexts -/

/-- The runners that keep a map of running jobs. -/
inductive JobKind
  | build
  | xcode
  | wda
  deriving DecidableEq

/-- The kinds of long work. -/
inductive WorkKind
  | job (kind : JobKind)
  /-- The connection loop of a phone. -/
  | device
  deriving DecidableEq

/-- The runner bounds its jobs by `context.WithTimeout`. -/
def WorkKind.limited : WorkKind → Bool
  | job .build => true
  | job .xcode => true
  | job .wda => false
  | device => false

/-- The contexts of a node. -/
inductive Scope
  /-- The context of the process. -/
  | process
  /-- `context.Background`. -/
  | background
  /-- The context of the control stream with this number. -/
  | stream (number : Nat)
  /-- A context of `DetachStreamContext`, made for the work with this number. -/
  | detached (number : Nat)
  /-- The context with the cancel function that work keeps. -/
  | work (number : Nat)
  /-- The context with the deadline of work. -/
  | deadline (number : Nat)
  deriving DecidableEq

/-- Why a context was cancelled. -/
inductive Ending
  /-- The control stream ended. -/
  | streamEnd
  /-- The cancel command of a job. -/
  | cancelled
  /-- A stop or restart command for a connection loop. -/
  | stopped
  /-- New settings that need a restart of a connection loop. -/
  | reconfigured
  /-- The release command of a phone. -/
  | released
  /-- The deadline of a job. -/
  | timedOut
  /-- The end of a job. -/
  | completed
  /-- `StopAll` or `Stop` of the manager. -/
  | managerStop
  deriving DecidableEq

/-- A piece of long work, from its start on. -/
structure Work where
  number : Nat
  kind : WorkKind
  /-- The id of the job or of the phone. -/
  id : String
  /-- The stream whose frame started it. -/
  stream : Option Nat
  deriving DecidableEq

/-- The context that the work runs under. -/
def Work.context (work : Work) : Scope :=
  if work.kind.limited then .deadline work.number else .work work.number

/-- The contexts, the streams and all the work that was ever started. -/
structure Lifetimes where
  contexts : Contexts Scope Ending
  /-- The number of streams opened so far. -/
  streams : Nat
  /-- The stream that is up. -/
  current : Option Nat
  works : List Work

namespace Lifetimes

variable (life : Lifetimes)

/-- Before the first stream. -/
def new : Lifetimes where
  contexts := .new [.process]
  streams := 0
  current := none
  works := []

/-- `serve` opens a stream. -/
def openStream : Lifetimes :=
  { life with
    contexts := life.contexts.withCancel (.stream life.streams) .process
    streams := life.streams + 1
    current := some life.streams }

variable (stream : Nat)

/-- `serve` returns, and cancels the context of its stream. -/
def endStream : Lifetimes :=
  { life with
    contexts := life.contexts.cancel (.stream stream) .streamEnd
    current := none }

/-- `DetachStreamContext`, for the work that starts next. -/
def detach : Lifetimes :=
  { life with contexts := life.contexts.withoutCancel (.detached life.works.length) }

/-- Work starts under a parent context; its number is the number of works before
it. -/
def launch (parent : Scope) (kind : WorkKind) (id : String) (stream : Option Nat) : Lifetimes :=
  let number := life.works.length
  let contexts := life.contexts.withCancel (.work number) parent
  { life with
    contexts :=
      if kind.limited then contexts.withCancel (.deadline number) (.work number) else contexts
    works := life.works ++ [{ number, kind, id, stream }] }

/-- A context of work is cancelled. -/
def cancel (scope : Scope) (ending : Ending) : Lifetimes :=
  { life with contexts := life.contexts.cancel scope ending }

/-- The cancel functions of several works are called. -/
def cancelAll (numbers : List Nat) (ending : Ending) : Lifetimes :=
  numbers.foldl (fun life number => life.cancel (.work number) ending) life

/-- A context of the work was cancelled by itself, and so not by the end of a
stream. -/
def OwnEnd (number : Nat) : Prop :=
  ∃ entry ∈ life.contexts.ended,
    entry.2 ≠ .streamEnd ∧ (entry.1 = .work number ∨ entry.1 = .deadline number)
  deriving Decidable

/-- The work that ends with the stream has ended already. -/
def WorkOver : Prop :=
  ∀ work ∈ life.works, .stream stream ∈ life.contexts.lineage work.context →
    life.contexts.done work.context = true
  deriving Decidable

/-- Work can start under the context: it cannot be cancelled, or it is that of a
stream that has not ended. -/
inductive Parent : Scope → Prop
  | process : Parent .process
  | background : Parent .background
  | detached : Parent (.detached life.works.length)
  | stream {number : Nat} (opened : number < life.streams)
      (up : life.contexts.done (.stream number) = false) : Parent (.stream number)

/-- What holds in every state. -/
structure Sound : Prop where
  process : life.contexts.lineage .process = [.process]
  background : life.contexts.lineage .background = []
  detached : ∀ number, life.contexts.lineage (.detached number) = []
  stream : ∀ number < life.streams,
    life.contexts.lineage (.stream number) = [.stream number, .process]
  current : ∀ number ∈ life.current,
    number < life.streams ∧ life.contexts.done (.stream number) = false
  number : ∀ work ∈ life.works, work.number < life.works.length
  lineage : ∀ work ∈ life.works, ∀ scope ∈ life.contexts.lineage work.context,
    scope = .work work.number ∨ scope = .deadline work.number ∨ scope = .process ∨
      ∃ number < life.streams, scope = .stream number
  ended : ∀ entry ∈ life.contexts.ended,
    (∃ number < life.streams, entry.1 = .stream number) ∨
      entry.2 ≠ .streamEnd ∧ ∃ number < life.works.length,
        entry.1 = .work number ∨ entry.1 = .deadline number
  /-- Work is cancelled only for a reason of its own. -/
  own : ∀ work ∈ life.works, life.contexts.done work.context = true → life.OwnEnd work.number

variable {life}

theorem sound_new : new.Sound where
  process := rfl
  background := rfl
  detached _ := rfl
  stream _ below := absurd below (Nat.not_lt_zero _)
  current _ up := absurd up (Option.not_mem_none _)
  number _ started := absurd started not_mem_nil
  lineage _ started := absurd started not_mem_nil
  ended := nofun
  own _ started := absurd started not_mem_nil

/-- No work and no stream is forgotten. -/
structure Grows (life next : Lifetimes) : Prop where
  works : life.works.length ≤ next.works.length
  streams : life.streams ≤ next.streams

theorem Grows.of_eq {life next : Lifetimes} (works : next.works = life.works)
    (streams : next.streams = life.streams) : life.Grows next where
  works := by simp [works]
  streams := by simp [streams]

namespace Sound

variable {ending : Ending}

/-- A stream that is not opened yet has not ended. -/
theorem fresh_stream (sound : life.Sound) :
    (.stream life.streams, ending) ∉ life.contexts.ended := by
  intro member
  rcases sound.ended _ member with ⟨number, below, same⟩ | ⟨-, number, -, same | same⟩
  · cases same
    exact Nat.lt_irrefl _ below
  · cases same
  · cases same

/-- The contexts of work that has not started have not ended. -/
theorem fresh_work (sound : life.Sound) {scope : Scope}
    (next : scope = .work life.works.length ∨ scope = .deadline life.works.length) :
    (scope, ending) ∉ life.contexts.ended := by
  intro member
  rcases sound.ended _ member with ⟨number, -, same⟩ | ⟨-, number, below, same | same⟩
  · rcases next with rfl | rfl <;> cases same
  · rcases next with rfl | rfl <;> cases same
    exact Nat.lt_irrefl _ below
  · rcases next with rfl | rfl <;> cases same
    exact Nat.lt_irrefl _ below

/-- The context of the process is never cancelled. -/
theorem process_not_ended (sound : life.Sound) : (.process, ending) ∉ life.contexts.ended := by
  intro member
  rcases sound.ended _ member with ⟨number, -, same⟩ | ⟨-, number, -, same | same⟩ <;> cases same

/-- A parent is not done, and ends only with a stream or the process. -/
theorem lineage_of_parent (sound : life.Sound) {parent scope : Scope} (may : life.Parent parent)
    (member : scope ∈ life.contexts.lineage parent) :
    (scope = .process ∨ ∃ number < life.streams, scope = .stream number) ∧
      ∀ ending, (scope, ending) ∉ life.contexts.ended := by
  cases may with
  | process =>
    rw [sound.process, mem_singleton] at member
    subst member
    exact ⟨.inl rfl, fun _ => sound.process_not_ended⟩
  | background =>
    rw [sound.background] at member
    cases member
  | detached =>
    rw [sound.detached] at member
    cases member
  | stream opened up =>
    constructor
    · rw [sound.stream _ opened] at member
      simp only [mem_cons, not_mem_nil, or_false] at member
      rcases member with rfl | rfl
      · exact .inr ⟨_, opened, rfl⟩
      · exact .inl rfl
    · intro ending ended
      have finished := done_iff.mpr ⟨scope, member, ending, ended⟩
      rw [up] at finished
      cases finished

/-- The stream that is up can be a parent. -/
theorem parent_current (sound : life.Sound) {stream : Nat} (up : life.current = some stream) :
    life.Parent (.stream stream) := by
  rcases sound.current stream up with ⟨opened, running⟩
  exact .stream opened running

end Sound

/-! ## Streams -/

theorem context_ne_stream (work : Work) (number : Nat) : work.context ≠ .stream number := by
  unfold Work.context
  split_ifs <;> simp

theorem grows_openStream : life.Grows life.openStream where
  works := Nat.le_refl _
  streams := Nat.le_succ _

theorem Sound.openStream (sound : life.Sound) : life.openStream.Sound := by
  have kept {scope : Scope} (different : scope ≠ .stream life.streams) :
      life.openStream.contexts.lineage scope = life.contexts.lineage scope :=
    lineage_withCancel_of_ne different
  have opened : life.openStream.contexts.lineage (.stream life.streams) =
      [.stream life.streams, .process] := by
    simp [Lifetimes.openStream, sound.process]
  constructor
  case process => rw [kept (by simp), sound.process]
  case background => rw [kept (by simp), sound.background]
  case detached =>
    intro number
    rw [kept (by simp), sound.detached]
  case stream =>
    intro number below
    rcases Nat.lt_succ_iff_lt_or_eq.mp below with earlier | rfl
    · rw [kept (by simp; omega), sound.stream number earlier]
    · exact opened
  case current =>
    intro number up
    cases up
    constructor
    · exact Nat.lt_succ_self _
    · rw [Bool.eq_false_iff]
      intro finished
      rcases done_iff.mp finished with ⟨scope, member, ending, ended⟩
      rw [opened] at member
      simp only [mem_cons, not_mem_nil, or_false] at member
      rcases member with rfl | rfl
      · exact sound.fresh_stream ended
      · exact sound.process_not_ended ended
  case number => exact sound.number
  case lineage =>
    intro work started scope member
    rw [kept (context_ne_stream work _)] at member
    rcases sound.lineage work started scope member with same | same | same | ⟨number, below, same⟩
    · exact .inl same
    · exact .inr (.inl same)
    · exact .inr (.inr (.inl same))
    · exact .inr (.inr (.inr ⟨number, Nat.lt_succ_of_lt below, same⟩))
  case ended =>
    intro entry member
    rcases sound.ended entry member with ⟨number, below, same⟩ | own
    · exact .inl ⟨number, Nat.lt_succ_of_lt below, same⟩
    · exact .inr own
  case own =>
    intro work started finished
    apply sound.own work started
    rw [done_iff] at finished ⊢
    rwa [kept (context_ne_stream work _)] at finished

/-- The end of a stream is the end of no work that is still running. -/
theorem Sound.endStream (sound : life.Sound) {stream : Nat} (up : life.current = some stream)
    (idle : life.WorkOver stream) : (life.endStream stream).Sound := by
  have opened := (sound.current stream up).1
  refine { sound with current := nofun, ended := ?ended, own := ?own }
  case ended =>
    intro entry member
    rcases mem_cons.mp member with rfl | before
    · exact .inl ⟨stream, opened, rfl⟩
    · exact sound.ended entry before
  case own =>
    intro work started finished
    have before : life.contexts.done work.context = true := by
      rcases done_iff.mp finished with ⟨scope, member, ending, ended⟩
      rcases mem_cons.mp ended with same | earlier
      · cases same
        exact idle work started member
      · exact done_iff.mpr ⟨scope, member, ending, earlier⟩
    rcases sound.own work started before with ⟨entry, ended, reason⟩
    exact ⟨entry, mem_cons_of_mem _ ended, reason⟩

/-! ## Work -/

theorem Sound.detach (sound : life.Sound) : life.detach.Sound := by
  have kept {scope : Scope} (different : scope ≠ .detached life.works.length) :
      life.detach.contexts.lineage scope = life.contexts.lineage scope :=
    lineage_withoutCancel_of_ne different
  have context (work : Work) : work.context ≠ .detached life.works.length := by
    unfold Work.context
    split_ifs <;> simp
  constructor
  case process => rw [kept (by simp), sound.process]
  case background => rw [kept (by simp), sound.background]
  case detached =>
    intro number
    by_cases same : number = life.works.length
    · subst same
      exact lineage_withoutCancel
    · rw [kept (by simpa using same), sound.detached]
  case stream =>
    intro number below
    rw [kept (by simp), sound.stream number below]
  case current =>
    intro number up
    rcases sound.current number up with ⟨below, running⟩
    refine ⟨below, ?_⟩
    rw [done, kept (by simp)]
    exact running
  case number => exact sound.number
  case lineage =>
    intro work started
    rw [kept (context work)]
    exact sound.lineage work started
  case ended => exact sound.ended
  case own =>
    intro work started finished
    apply sound.own work started
    rw [done, kept (context work)] at finished
    exact finished

variable (life) in
theorem length_works_launch (parent : Scope) (kind : WorkKind) (id : String) (stream : Option Nat) :
    (life.launch parent kind id stream).works.length = life.works.length + 1 := by
  simp [launch]

theorem grows_launch (parent : Scope) (kind : WorkKind) (id : String) (stream : Option Nat) :
    life.Grows (life.launch parent kind id stream) where
  works := by
    rw [length_works_launch]
    exact Nat.le_succ _
  streams := Nat.le_refl _

variable {parent scope : Scope} {id : String} {kind : WorkKind}

/-- Starting work changes no lineage but those of its own contexts. -/
theorem lineage_launch_of_ne {stream : Option Nat} (notWork : scope ≠ .work life.works.length)
    (notDeadline : scope ≠ .deadline life.works.length) :
    (life.launch parent kind id stream).contexts.lineage scope = life.contexts.lineage scope := by
  unfold launch
  split_ifs
  · rw [lineage_withCancel_of_ne notDeadline, lineage_withCancel_of_ne notWork]
  · rw [lineage_withCancel_of_ne notWork]

@[simp]
theorem ended_launch (parent : Scope) (kind : WorkKind) (id : String) (stream : Option Nat) :
    (life.launch parent kind id stream).contexts.ended = life.contexts.ended := by
  unfold launch
  split_ifs <;> rfl

/-- Work that starts has its own contexts and ends with its parent. -/
theorem mem_lineage_launch {stream : Option Nat}
    (member : scope ∈ (life.launch parent kind id stream).contexts.lineage
      (Work.context ⟨life.works.length, kind, id, stream⟩)) :
    scope = .work life.works.length ∨ scope = .deadline life.works.length ∨
      scope ∈ life.contexts.lineage parent := by
  unfold launch Work.context at member
  split_ifs at member <;> simp only [lineage_withCancel, mem_cons] at member
  · rcases member with same | same | inherited
    · exact .inr (.inl same)
    · exact .inl same
    · exact .inr (.inr inherited)
  · rcases member with same | inherited
    · exact .inl same
    · exact .inr (.inr inherited)

theorem Sound.context_ne (sound : life.Sound) {work : Work} (started : work ∈ life.works) :
    work.context ≠ .work life.works.length ∧ work.context ≠ .deadline life.works.length := by
  have below := sound.number work started
  unfold Work.context
  split_ifs
  · exact ⟨by simp, by simp; omega⟩
  · exact ⟨by simp; omega, by simp⟩

theorem Sound.launch (sound : life.Sound) (may : life.Parent parent) (kind : WorkKind) (id : String)
    (stream : Option Nat) : (life.launch parent kind id stream).Sound := by
  have length := life.length_works_launch parent kind id stream
  constructor
  case process => rw [lineage_launch_of_ne (by simp) (by simp), sound.process]
  case background => rw [lineage_launch_of_ne (by simp) (by simp), sound.background]
  case detached =>
    intro number
    rw [lineage_launch_of_ne (by simp) (by simp), sound.detached]
  case stream =>
    intro number below
    rw [lineage_launch_of_ne (by simp) (by simp), sound.stream number below]
  case current =>
    intro number up
    rcases sound.current number up with ⟨below, running⟩
    refine ⟨below, ?_⟩
    unfold done endedAt
    rw [lineage_launch_of_ne (by simp) (by simp), ended_launch]
    exact running
  case number =>
    intro work started
    rw [length]
    rcases mem_append.mp started with before | new
    · exact Nat.lt_succ_of_lt (sound.number work before)
    · rw [mem_singleton.mp new]
      exact Nat.lt_succ_self _
  case lineage =>
    intro work started scope member
    rcases mem_append.mp started with before | new
    · rw [lineage_launch_of_ne (sound.context_ne before).1 (sound.context_ne before).2] at member
      exact sound.lineage work before scope member
    rw [mem_singleton] at new
    subst new
    rcases mem_lineage_launch member with same | same | inherited
    · exact .inl same
    · exact .inr (.inl same)
    · exact .inr (.inr (sound.lineage_of_parent may inherited).1)
  case ended =>
    intro entry member
    rw [ended_launch] at member
    rcases sound.ended entry member with stream | ⟨reason, number, below, same⟩
    · exact .inl stream
    · exact .inr ⟨reason, number, by omega, same⟩
  case own =>
    intro work started finished
    rw [done_iff, ended_launch] at finished
    rcases finished with ⟨scope, member, ending, ended⟩
    unfold OwnEnd
    rw [ended_launch]
    rcases mem_append.mp started with before | new
    · rw [lineage_launch_of_ne (sound.context_ne before).1 (sound.context_ne before).2] at member
      exact sound.own work before (done_iff.mpr ⟨scope, member, ending, ended⟩)
    -- Work that has just started is not done: its contexts are new and its
    -- parent has not ended.
    rw [mem_singleton] at new
    subst new
    rcases mem_lineage_launch member with same | same | inherited
    · exact absurd ended (sound.fresh_work (.inl same))
    · exact absurd ended (sound.fresh_work (.inr same))
    · exact absurd ended ((sound.lineage_of_parent may inherited).2 ending)

/-- A context of work is cancelled for a reason of its own. -/
theorem Sound.cancel (sound : life.Sound) {ending : Ending} {number : Nat}
    (below : number < life.works.length) (own : scope = .work number ∨ scope = .deadline number)
    (reason : ending ≠ .streamEnd) : (life.cancel scope ending).Sound := by
  refine { sound with current := ?current, ended := ?ended, own := ?own }
  case current =>
    intro stream up
    rcases sound.current stream up with ⟨opened, running⟩
    refine ⟨opened, ?_⟩
    rw [Bool.eq_false_iff] at running ⊢
    intro finished
    apply running
    rcases done_iff.mp finished with ⟨ancestor, member, why, ended⟩
    rcases mem_cons.mp ended with same | earlier
    · cases same
      change scope ∈ life.contexts.lineage _ at member
      rw [sound.stream stream opened] at member
      rcases own with rfl | rfl <;> simp at member
    · exact done_iff.mpr ⟨ancestor, member, why, earlier⟩
  case ended =>
    intro entry member
    rcases mem_cons.mp member with rfl | before
    · exact .inr ⟨reason, number, below, own⟩
    · exact sound.ended entry before
  case own =>
    intro work started finished
    rcases done_iff.mp finished with ⟨ancestor, member, why, ended⟩
    rcases mem_cons.mp ended with same | earlier
    · cases same
      refine ⟨(scope, ending), mem_cons_self, reason, ?_⟩
      rcases sound.lineage work started scope member with mine | mine | mine | ⟨stream, -, mine⟩
      · exact .inl mine
      · exact .inr mine
      · rcases own with rfl | rfl <;> cases mine
      · rcases own with rfl | rfl <;> cases mine
    · rcases sound.own work started (done_iff.mpr ⟨ancestor, member, why, earlier⟩) with
        ⟨entry, before, mine⟩
      exact ⟨entry, mem_cons_of_mem _ before, mine⟩

theorem grows_cancelAll (life : Lifetimes) (numbers : List Nat) (ending : Ending) :
    life.Grows (life.cancelAll numbers ending) := by
  induction numbers generalizing life with
  | nil => exact .of_eq rfl rfl
  | cons number rest ih =>
    have first : life.Grows (life.cancel (.work number) ending) := .of_eq rfl rfl
    have remaining := ih (life.cancel (.work number) ending)
    constructor
    · exact Nat.le_trans first.works remaining.works
    · exact Nat.le_trans first.streams remaining.streams

theorem Sound.cancelAll (sound : life.Sound) {numbers : List Nat} {ending : Ending}
    (below : ∀ number ∈ numbers, number < life.works.length) (reason : ending ≠ .streamEnd) :
    (life.cancelAll numbers ending).Sound := by
  induction numbers generalizing life with
  | nil => exact sound
  | cons number rest ih =>
    have first : (life.cancel (.work number) ending).Sound :=
      sound.cancel (below number mem_cons_self) (.inl rfl) reason
    exact ih first fun other member => below other (mem_cons_of_mem _ member)

end Lifetimes

/-! ## Requests -/

/-- `NodeBuildRequest`, as far as `Start` reads it. -/
structure BuildRequest where
  buildId : String
  sourceUrl : String
  sourceKind : String := ""
  steps : List String
  uploadUrl : String
  uploadToken : String

/-- `NodeHostToolJob`, as far as `Start` reads it. -/
structure HostToolJob where
  jobId : String
  tool : String
  downloadUrl : String

/-- `NodeIosWdaJobRequest`, as far as `Start` reads it. -/
structure WdaJobRequest where
  jobId : String
  udid : String

/-- Why a `Start` refuses a request. -/
inductive StartError
  | buildId
  | sourceUrl
  | sourceKind (kind : String)
  | steps
  | upload
  | xcodeJobId
  | tool (tool : String)
  | downloadUrl (url : String)
  | xcodeBusy
  | wdaJobId
  | udid
  deriving DecidableEq

/-- The text of an error; `quote` is the `%q` verb. -/
def StartError.text (quote : String → String) : StartError → String
  | buildId => "build: build_id is required"
  | sourceUrl => "build: source_url is required"
  | sourceKind kind => "build: unknown source_kind " ++ quote kind
  | steps => "build: steps is required"
  | upload => "build: upload_url and upload_token are required"
  | xcodeJobId => "xcode-job: job_id is required"
  | tool name => "xcode-job: unsupported tool " ++ quote name ++ " (only xcode)"
  | downloadUrl url => "xcode-job: download_url must be an https .xip link, got " ++ quote url
  | xcodeBusy => "xcode-job: another Xcode install is already running on this host"
  | wdaJobId => "wda job: job_id is required"
  | udid => "wda job: udid is required"

/-- The checks of `Runner.Start`; the result is the id of the job. -/
def BuildRequest.check (request : BuildRequest) : Except StartError String :=
  if request.buildId = "" then .error .buildId
  else if request.sourceUrl = "" then .error .sourceUrl
  else if toLower (trimSpace request.sourceKind) ∉ ["", "git", "archive"] then
    .error (.sourceKind request.sourceKind)
  else if request.steps = [] then .error .steps
  else if request.uploadUrl = "" ∨ request.uploadToken = "" then .error .upload
  else .ok request.buildId

/-- The checks of `XcodeJobRunner.Start`. -/
def HostToolJob.check (request : HostToolJob) : Except StartError String :=
  let jobId := trimSpace request.jobId
  let url := trimSpace request.downloadUrl
  if jobId = "" then .error .xcodeJobId
  else if trimSpace request.tool ≠ "xcode" then .error (.tool request.tool)
  else if !hasPrefix url "https://" || !hasSuffix (toLower url) ".xip" then
    .error (.downloadUrl url)
  else .ok jobId

/-- The checks of `WdaJobManager.Start`. -/
def WdaJobRequest.check (request : WdaJobRequest) : Except StartError String :=
  if request.jobId = "" then .error .wdaJobId
  else if request.udid = "" then .error .udid
  else .ok request.jobId

/-! ## Runners -/

/-- The job runners: for each kind, the running jobs with the number of their
work. -/
structure Runners where
  life : Lifetimes
  jobs : JobKind → List (String × Nat)

namespace Runners

variable (runners : Runners)

/-- No job has started. -/
def new : Runners where
  life := .new
  jobs _ := []

/-- The number of a running job. -/
def find (kind : JobKind) (id : String) : Option Nat :=
  ((runners.jobs kind).find? fun job => job.1 = id).map Prod.snd

/-- `Start` of the three runners, after the checks.  A running job is accepted
again without effect, and only one Xcode install runs at a time. -/
def start (parent : Scope) (kind : JobKind) (id : String) (stream : Nat) :
    Except StartError Runners :=
  if (runners.find kind id).isSome then .ok runners
  else if kind = .xcode ∧ runners.jobs .xcode ≠ [] then .error .xcodeBusy
  else
    .ok
      { life := runners.life.launch parent (.job kind) id (some stream)
        jobs :=
          Function.update runners.jobs kind
            ((id, runners.life.works.length) :: runners.jobs kind) }

/-- `Cancel` of the three runners. -/
def cancel (kind : JobKind) (id : String) : Runners :=
  match runners.find kind id with
  | none => runners
  | some number => { runners with life := runners.life.cancel (.work number) .cancelled }

/-- `StopAll` of the three runners. -/
def stopAll (kind : JobKind) : Runners :=
  { runners with
    life := runners.life.cancelAll ((runners.jobs kind).map Prod.snd) .managerStop }

/-- The deadline of a running job passes. -/
def timeout (kind : JobKind) (id : String) : Option Runners :=
  if (WorkKind.job kind).limited then
    (runners.find kind id).map fun number =>
      { runners with life := runners.life.cancel (.deadline number) .timedOut }
  else none

/-- A job comes to its end, and its goroutine cleans up. -/
def complete (kind : JobKind) (id : String) : Option Runners :=
  (runners.find kind id).map fun number =>
    { life := (runners.life.cancel (.deadline number) .completed).cancel (.work number) .completed
      jobs :=
        Function.update runners.jobs kind ((runners.jobs kind).filter fun job => job.1 ≠ id) }

/-- What holds in every state. -/
structure Sound : Prop where
  life : runners.life.Sound
  jobs : ∀ kind, ∀ job ∈ runners.jobs kind, job.2 < runners.life.works.length

variable {runners}

theorem sound_new : new.Sound where
  life := Lifetimes.sound_new
  jobs := nofun

variable {id : String} {kind : JobKind} {next : Runners}

theorem mem_of_find {number : Nat} (found : runners.find kind id = some number) :
    ∃ job ∈ runners.jobs kind, job.2 = number := by
  rcases Option.map_eq_some_iff.mp found with ⟨job, listed, same⟩
  exact ⟨job, mem_of_find?_eq_some listed, same⟩

namespace Sound

variable {id : String} {kind : JobKind} {next : Runners}

section RunnerCommands

variable (sound : runners.Sound)

include sound

theorem below_of_find {number : Nat}
    (found : runners.find kind id = some number) : number < runners.life.works.length := by
  rcases mem_of_find found with ⟨job, member, rfl⟩
  exact sound.jobs kind job member

/-- The contexts change, and no work is forgotten. -/
theorem withLife {life : Lifetimes} (next : life.Sound)
    (grows : runners.life.Grows life) : Sound { runners with life := life } where
  life := next
  jobs kind job member := Nat.lt_of_lt_of_le (sound.jobs kind job member) grows.works

theorem start {parent : Scope} (may : runners.life.Parent parent)
    {stream : Nat} (started : runners.start parent kind id stream = .ok next) : next.Sound := by
  unfold Runners.start at started
  split_ifs at started
  · cases started
    exact sound
  cases started
  constructor
  · exact sound.life.launch may _ _ _
  · intro other job member
    dsimp only at member
    rw [Lifetimes.length_works_launch]
    have earlier : job ∈ runners.jobs other → job.2 < runners.life.works.length + 1 :=
      fun before => Nat.lt_succ_of_lt (sound.jobs other job before)
    by_cases same : other = kind
    · subst same
      rw [Function.update_self] at member
      rcases mem_cons.mp member with rfl | before
      · exact Nat.lt_succ_self _
      · exact earlier before
    · rw [Function.update_of_ne same] at member
      exact earlier member

theorem cancel (kind : JobKind) (id : String) : (runners.cancel kind id).Sound := by
  unfold Runners.cancel
  split
  · exact sound
  · rename_i number found
    apply sound.withLife
    · exact sound.life.cancel (sound.below_of_find found) (.inl rfl) (by simp)
    · exact .of_eq rfl rfl

theorem stopAll (kind : JobKind) : (runners.stopAll kind).Sound := by
  apply sound.withLife
  · apply sound.life.cancelAll
    · intro number listed
      rcases mem_map.mp listed with ⟨job, member, rfl⟩
      exact sound.jobs kind job member
    · simp
  · exact Lifetimes.grows_cancelAll _ _ _

theorem timeout (passed : runners.timeout kind id = some next) : next.Sound := by
  unfold Runners.timeout at passed
  split_ifs at passed
  rcases Option.map_eq_some_iff.mp passed with ⟨number, found, rfl⟩
  apply sound.withLife
  · exact sound.life.cancel (sound.below_of_find found) (.inr rfl) (by simp)
  · exact .of_eq rfl rfl

theorem complete (completed : runners.complete kind id = some next) : next.Sound := by
  rcases Option.map_eq_some_iff.mp completed with ⟨number, found, rfl⟩
  have below := sound.below_of_find found
  constructor
  · have limit : (runners.life.cancel (.deadline number) .completed).Sound :=
      sound.life.cancel below (.inr rfl) (by simp)
    exact limit.cancel below (.inl rfl) (by simp)
  · intro other job member
    dsimp only at member
    by_cases same : other = kind
    · subst same
      rw [Function.update_self] at member
      exact sound.jobs other job (mem_of_mem_filter member)
    · rw [Function.update_of_ne same] at member
      exact sound.jobs other job member

end RunnerCommands

end Sound

theorem grows_start {parent : Scope} {stream : Nat}
    (started : runners.start parent kind id stream = .ok next) : runners.life.Grows next.life := by
  unfold start at started
  split_ifs at started <;> cases started
  · exact .of_eq rfl rfl
  · exact Lifetimes.grows_launch _ _ _ _

theorem grows_cancel (kind : JobKind) (id : String) :
    runners.life.Grows (runners.cancel kind id).life := by
  unfold cancel
  split <;> exact .of_eq rfl rfl

theorem grows_timeout
    (passed : runners.timeout kind id = some next) : runners.life.Grows next.life := by
  unfold timeout at passed
  split_ifs at passed
  rcases Option.map_eq_some_iff.mp passed with ⟨number, -, rfl⟩
  exact .of_eq rfl rfl

theorem grows_complete
    (completed : runners.complete kind id = some next) : runners.life.Grows next.life := by
  rcases Option.map_eq_some_iff.mp completed with ⟨number, -, rfl⟩
  exact .of_eq rfl rfl

end Runners

end LubricantNodes.Agent
