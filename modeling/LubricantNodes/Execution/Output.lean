import LubricantNodes.Transition.Channel
import LubricantNodes.Execution.Node

/-!
# Output delivery

The queue between an editor and the upstream stream is meant to be a lossless
channel.  It is one as long as at most one flusher of the queue is alive: the
flusher reads the head, releases the lock to emit it and pops afterwards, so a
second flusher emits the same head and pops a chunk nobody emitted.

`startRuntime` after `stopAll`, and `restartRuntime` after a run that has
closed `runDone` with its flusher still backing off, both start a second
flusher.
-/

namespace LubricantNodes.Execution

open Transition List

namespace OutputQueue

/-! ## A queue with one flusher -/

/-- The chunks not emitted yet. -/
def transit (queue : OutputQueue) : List QueuedChunk :=
  queue.appended.drop queue.emitted.length

/-- The queue as a channel. -/
def channel (queue : OutputQueue) : Channel QueuedChunk :=
  ⟨queue.appended, queue.transit, queue.emitted⟩

/-- Executions in which no flusher is started while another one is alive. -/
def Solo : Discipline OutputQueue Event
  | queue, .start _ => ∀ index, (queue.flusher index).alive = false
  | _, _ => True

/-- No flusher but that of run `index` is alive, and the queue holds exactly
what is not emitted, save for a head that is emitted and not popped yet. -/
structure Sole (queue : OutputQueue) (index : Nat) : Prop where
  others : ∀ other, other ≠ index → (queue.flusher other).alive = false
  holding : ∀ chunk, queue.flusher index = .holding chunk → ∃ rest, queue.items = chunk :: rest
  settled : queue.flusher index ≠ .delivered → queue.items = queue.transit
  delivered : queue.flusher index = .delivered → ∃ chunk, queue.items = chunk :: queue.transit
  bounded : queue.emitted.length ≤ queue.appended.length
  sound : queue.panicked = false

variable {index : Nat} {queue : OutputQueue} {chunk : QueuedChunk} {rest : List QueuedChunk}

theorem Sole.eq_of_alive {other : Nat} (sole : Sole queue index)
    (alive : (queue.flusher other).alive = true) : other = index := by
  by_contra different
  rw [sole.others other different] at alive
  contradiction

theorem transit_append (bounded : queue.emitted.length ≤ queue.appended.length) (data : List UInt8)
    (stream : StdioStream) (time : Nat) :
    (queue.append data stream time).transit =
      queue.transit ++ [⟨data, stream, queue.offset, time⟩] :=
  drop_append_of_le_length bounded

/-- Emitting the head takes it out of transit. -/
theorem transit_eq_of_emit (transit : queue.transit = chunk :: rest) :
    queue.appended.drop (queue.emitted ++ [chunk]).length = rest := by
  rw [length_append, length_singleton, ← drop_drop]
  change queue.transit.drop 1 = rest
  rw [transit, drop_one, tail_cons]

theorem length_lt_of_transit (transit : queue.transit = chunk :: rest) :
    queue.emitted.length < queue.appended.length := by
  by_contra short
  have empty : queue.transit = [] := drop_eq_nil_of_le (by omega)
  rw [empty] at transit
  contradiction

section SoleFlusher

variable (sole : Sole queue index)

include sole

theorem Sole.others_setFlusher {flusher : Flusher} (other : Nat) (different : other ≠ index) :
    ((queue.setFlusher index flusher).flusher other).alive = false := by
  rw [setFlusher_flusher, if_neg different]
  exact sole.others other different

theorem sole_start {started : Nat} (none : ∀ other, (queue.flusher other).alive = false) :
    Sole (queue.setFlusher started .top) started where
  others := fun other different => by
    rw [setFlusher_flusher, if_neg different]
    exact none other
  holding := fun chunk held => by simp at held
  settled := fun _ => by
    have idle : queue.flusher index ≠ .delivered := fun same => by
      have dead := none index
      rw [same] at dead
      contradiction
    exact sole.settled idle
  delivered := fun held => by simp at held
  bounded := sole.bounded
  sound := sole.sound

theorem sole_append (data : List UInt8) (stream : StdioStream)
    (time : Nat) : Sole (queue.append data stream time) index where
  __ := sole
  holding := fun chunk held => by
    obtain ⟨rest, items⟩ := sole.holding chunk held
    exact ⟨_, congrArg (· ++ _) items⟩
  settled := fun idle => by
    rw [transit_append sole.bounded]
    exact congrArg (· ++ _) (sole.settled idle)
  delivered := fun emitted => by
    obtain ⟨chunk, items⟩ := sole.delivered emitted
    rw [transit_append sole.bounded]
    exact ⟨chunk, congrArg (· ++ _) items⟩
  bounded := by simpa [append] using Nat.le_succ_of_le sole.bounded

/-- Moving the only flusher to a place other than holding or having emitted a
chunk. -/
theorem Sole.move {flusher : Flusher} (before : queue.flusher index ≠ .delivered)
    (holding : ∀ chunk, flusher = .holding chunk → ∃ rest, queue.items = chunk :: rest)
    (after : flusher ≠ .delivered) : Sole (queue.setFlusher index flusher) index where
  __ := sole
  others := sole.others_setFlusher
  holding := fun chunk held => holding chunk (by simpa using held)
  settled := fun _ => sole.settled before
  delivered := fun held => absurd (by simpa using held) after

theorem Sole.deliver (held : queue.flusher index = .holding chunk) :
    queue.transit = chunk :: queue.items.tail ∧
      Sole { queue.setFlusher index .delivered with emitted := queue.emitted ++ [chunk] }
        index := by
  obtain ⟨rest, items⟩ := sole.holding chunk held
  have transit : queue.transit = chunk :: rest := by
    rw [← sole.settled (by simp [held]), items]
  refine ⟨by rw [items, transit, tail_cons], ?_⟩
  exact {
    others := sole.others_setFlusher
    holding := fun chunk held => by simp at held
    settled := fun idle => absurd (by simp) idle
    delivered := fun _ => ⟨chunk, by rw [← transit_eq_of_emit transit] at items; exact items⟩
    bounded := by
      rw [length_append]
      exact length_lt_of_transit transit
    sound := sole.sound }

theorem Sole.pop (emitted : queue.flusher index = .delivered)
    (items : queue.items = chunk :: rest) :
    Sole { queue.setFlusher index .top with items := rest } index where
  __ := sole
  others := sole.others_setFlusher
  holding := fun chunk held => by simp at held
  settled := fun _ => by
    obtain ⟨head, split⟩ := sole.delivered emitted
    rw [items] at split
    exact (cons.inj split).2
  delivered := fun held => by simp at held

/-- The only flusher keeps the queue in order. -/
theorem Sole.flush {queue' : OutputQueue} {moved : Nat} {action : FlushAction}
    (step : queue.flush moved action = some queue') : Sole queue' index := by
  have moves := flushes step
  have same : moved = index := sole.eq_of_alive (by cases moves <;> simp_all [Flusher.alive])
  subst same
  cases moves with
  | exit top _ _ => exact sole.move (by simp [top]) (by simp) (by simp)
  | hold top items =>
    refine sole.move (by simp [top]) (fun chunk held => ?_) (by simp)
    cases held
    exact ⟨_, items⟩
  | deliver held => exact (sole.deliver held).2
  | fail held => exact sole.move (by simp [held]) (by simp) (by simp)
  | retry waiting => exact sole.move (by simp [waiting]) (by simp) (by simp)
  | giveUp waiting => exact sole.move (by simp [waiting]) (by simp) (by simp)
  | panic emitted empty =>
    obtain ⟨chunk, items⟩ := sole.delivered emitted
    rw [empty] at items
    contradiction
  | pop emitted items => exact sole.pop emitted items

theorem Sole.stop : Sole { queue with closed := true } index :=
  ⟨sole.others, sole.holding, sole.settled, sole.delivered, sole.bounded, sole.sound⟩

end SoleFlusher

section Reached

variable (reached : Reaches step Solo new queue)

include reached

/-- In an execution with one flusher at a time, the queue is always in order. -/
theorem exists_sole : ∃ index, Sole queue index := by
  refine reached.invariant (P := fun queue => ∃ index, Sole queue index) ?_ ?_
  · exact ⟨0, fun _ _ => rfl, nofun, fun _ => rfl, nofun, Nat.le_refl 0, rfl⟩
  · rintro queue event queue' - ⟨index, sole⟩ solo step
    cases event with
    | start started =>
      obtain ⟨-, rfl⟩ := guarded_eq_some_iff.mp step
      exact ⟨started, sole_start sole solo⟩
    | append data stream time =>
      cases step
      exact ⟨index, sole_append sole data stream time⟩
    | flush moved action => exact ⟨index, sole.flush step⟩
    | stop =>
      cases step
      exact ⟨index, sole.stop⟩

/-! ## The channel -/

/-- A queue with one flusher at a time is a lossless channel. -/
theorem reaches_channel : Reaches Channel.step Channel.lossless Channel.new queue.channel := by
  have ordered := reached.strengthen exists_sole
  refine ordered.project channel ?_
  rintro queue event queue' ⟨⟨index, sole⟩, -⟩ step
  cases event with
  | start started =>
    obtain ⟨-, rfl⟩ := guarded_eq_some_iff.mp step
    exact .refl
  | append data stream time =>
    cases step
    have sent : Channel.step queue.channel (.send ⟨data, stream, queue.offset, time⟩) =
        some (queue.append data stream time).channel := by
      rw [channel, channel, transit_append sole.bounded]
      rfl
    exact .single sent trivial
  | stop =>
    cases step
    exact .refl
  | flush moved action =>
    have moves := flushes step
    have same : moved = index := sole.eq_of_alive (by cases moves <;> simp_all [Flusher.alive])
    subst same
    cases moves with
    | @deliver chunk held =>
      obtain ⟨transit, -⟩ := sole.deliver held
      have received : Channel.step queue.channel .receive =
          some ⟨queue.appended, queue.items.tail, queue.emitted ++ [chunk]⟩ := by
        rw [channel, transit]
        rfl
      rw [← transit_eq_of_emit transit] at received
      exact .single received trivial
    | _ => exact .refl

/-- What is emitted is a prefix of what is appended. -/
theorem emitted_prefix : queue.emitted <+: queue.appended :=
  ⟨queue.transit, Channel.received_append_transit_eq (reaches_channel reached)⟩

/-- When the queue is empty, everything appended is emitted. -/
theorem emitted_eq_of_empty (empty : queue.items = []) : queue.emitted = queue.appended := by
  obtain ⟨index, sole⟩ := exists_sole reached
  have settled : queue.items = queue.transit := sole.settled fun emitted => by
    obtain ⟨chunk, items⟩ := sole.delivered emitted
    rw [empty] at items
    contradiction
  have conserved := Channel.received_append_transit_eq (reaches_channel reached)
  rw [channel, ← settled, empty, append_nil] at conserved
  exact conserved

/-! ## Offsets -/

/-- The total length of a list of chunks. -/
def total (chunks : List QueuedChunk) : Nat :=
  (chunks.flatMap QueuedChunk.data).length

/-- Every appended chunk carries the total length of the chunks before it, as
an unsigned 64-bit number. -/
structure Offsets (queue : OutputQueue) : Prop where
  next : queue.offset = UInt64.ofNat (total queue.appended)
  each : ∀ position chunk, queue.appended[position]? = some chunk →
    chunk.offset = UInt64.ofNat (total (queue.appended.take position))

end Reached

theorem offsets_append (offsets : Offsets queue) (data : List UInt8) (stream : StdioStream)
    (time : Nat) : Offsets (queue.append data stream time) where
  next := by
    simp [append, total, offsets.next, UInt64.ofNat_add]
  each := fun position chunk found => by
    change (queue.appended ++ [_])[position]? = some chunk at found
    change chunk.offset = UInt64.ofNat (total ((queue.appended ++ [_]).take position))
    rcases Nat.lt_or_ge position queue.appended.length with inside | outside
    · rw [getElem?_append_left inside] at found
      rw [take_append_of_le_length (Nat.le_of_lt inside)]
      exact offsets.each position chunk found
    rw [getElem?_append_right outside] at found
    have last : position = queue.appended.length := by
      obtain ⟨bound, -⟩ := List.getElem?_eq_some_iff.mp found
      rw [length_singleton] at bound
      omega
    subst last
    rw [Nat.sub_self, getElem?_cons_zero, Option.some.injEq] at found
    rw [← found, take_append_of_le_length (Nat.le_refl _), take_length]
    exact offsets.next

theorem offsets_of_reaches {ok : Discipline OutputQueue Event}
    (reached : Reaches step ok new queue) : Offsets queue := by
  refine reached.invariant ⟨rfl, nofun⟩ ?_
  intro queue event queue' _ offsets _ step
  cases event with
  | start started =>
    obtain ⟨-, rfl⟩ := guarded_eq_some_iff.mp step
    exact ⟨offsets.next, offsets.each⟩
  | append data stream time =>
    cases step
    exact offsets_append offsets data stream time
  | flush moved action => cases flushes step <;> exact ⟨offsets.next, offsets.each⟩
  | stop =>
    cases step
    exact ⟨offsets.next, offsets.each⟩

/-! ## Exactly once, in order -/

/-- The frames emitted are a prefix of the chunks appended, each with the total
length of the chunks before it as its offset, and no flusher has popped an
empty queue. -/
structure ExactlyOnce (queue : OutputQueue) : Prop where
  ordered : queue.emitted <+: queue.appended
  offsets : ∀ position chunk, queue.emitted[position]? = some chunk →
    chunk.offset = UInt64.ofNat (total (queue.appended.take position))
  sound : queue.panicked = false

theorem exactlyOnce_of_reaches (reached : Reaches step Solo new queue) : ExactlyOnce queue := by
  obtain ⟨index, sole⟩ := exists_sole reached
  have ordered := emitted_prefix reached
  refine ⟨ordered, fun position chunk found => ?_, sole.sound⟩
  refine (offsets_of_reaches reached).each position chunk ?_
  obtain ⟨rest, split⟩ := ordered
  obtain ⟨inside, -⟩ := List.getElem?_eq_some_iff.mp found
  rw [← split, getElem?_append_left inside, found]

end OutputQueue

namespace Session

/-- A run starts its flusher only when no flusher of the queue is alive. -/
def startsAlone (session : Session) : SessionEvent → Bool
  | .run _ .startQueue =>
    (List.range session.life.launched).all fun index => !(session.queue.flusher index).alive
  | _ => true

/-- In an execution in which flushers start alone, the queue goes through an
execution with one flusher at a time. -/
theorem reaches_solo {spec : CreateSession} {session : Session}
    (reached : Reaches step (checked startsAlone) (new spec) session) :
    Reaches OutputQueue.step OutputQueue.Solo .new session.queue := by
  have indexed := reached.strengthen indexed_of_reaches
  refine reaches_queue (indexed.mono ?_)
  rintro session event ⟨indexed, alone⟩ queueEvent taken
  cases queueEvent with
  | start started =>
    rw [output_eq_start_iff] at taken
    subst taken
    intro index
    by_contra alive
    have inRange := indexed.lt_of_alive (eq_true_of_ne_false alive)
    have dead := all_eq_true.mp alone index (mem_range.mpr inRange)
    simp_all
  | append | flush | stop => trivial

end Session

namespace Node

/-- A one-shot session. -/
def oneShotSpec : CreateSession :=
  { sessionId := "s", provider := "claude" }

/-- A node that offers one provider. -/
def claudeOptions : SessionOptions :=
  { providers := ["claude"] }

/-- The session `oneShotSpec` is created and its first run is pumping. -/
def firstRunPumping : List Event :=
  created oneShotSpec ++ prepared 0 ++ autoStarted 0 ++ pumping 0 0

/-- If every run starts its flusher only when no flusher of the queue is alive,
output is delivered exactly once and in order. -/
theorem output_exactlyOnce {opts : SessionOptions} {node : Node}
    (reached : Reaches step (checked (meets Session.startsAlone)) (new opts) node)
    {object : Nat} (existing : object < node.count) : (node.objects object).queue.ExactlyOnce := by
  obtain ⟨spec, reached⟩ := reaches_object reached existing
  exact OutputQueue.exactlyOnce_of_reaches (Session.reaches_solo reached)

/-- The flusher of a run stopped by `stopAll` and that of the next run both emit
the chunk at the head. -/
theorem output_not_exactlyOnce : ¬∀ (opts : SessionOptions) (node : Node) (object : Nat),
      Reaches step unrestricted (new opts) node → object < node.count →
        (node.objects object).queue.ExactlyOnce := by
  intro exactlyOnce
  obtain ⟨node, reached, existing, duplicated⟩ :
      ∃ node, Reaches step unrestricted (new claudeOptions) node ∧ 0 < node.count ∧
        ¬(node.objects 0).queue.emitted <+: (node.objects 0).queue.appended :=
    exists_reaches_of_run (firstRunPumping ++
        [.act 0 (.run 0 (.append [65] .stdout 0)), .act 0 (.flush 0 .peek)] ++
        stoppedAll 0 ++ started "s" ++
        [.act 0 (.run 1 .startQueue), .act 0 (.flush 1 .peek),
          .act 0 (.flush 0 (.emit true)), .act 0 (.flush 1 (.emit true))])
      (by decide +kernel)
  exact duplicated (exactlyOnce _ node 0 reached existing).ordered

/-- The first run appends two chunks; its flusher delivers them, the first one at the second
try. -/
def firstChunksDelivered : List Event :=
  firstRunPumping ++
    [.act 0 (.run 0 (.append [65] .stdout 0)), .act 0 (.flush 0 .peek),
      .act 0 (.flush 0 (.emit false)), .act 0 (.flush 0 .retry),
      .act 0 (.run 0 (.append [66, 67] .stderr 1)), .act 0 (.flush 0 .peek),
      .act 0 (.flush 0 (.emit true)), .act 0 (.flush 0 .pop), .act 0 (.flush 0 .peek),
      .act 0 (.flush 0 (.emit true)), .act 0 (.flush 0 .pop)]

theorem output_exactlyOnce_firstRun :
    ∃ node, Reaches step (checked (meets Session.startsAlone)) (new claudeOptions) node ∧
      (node.objects 0).queue.emitted = [⟨[65], .stdout, 0, 0⟩, ⟨[66, 67], .stderr, 1, 1⟩] ∧
      (node.objects 0).queue.ExactlyOnce := by
  refine exists_reaches_imp_of_run (fun node => 0 < node.count ∧
        (node.objects 0).queue.emitted = [⟨[65], .stdout, 0, 0⟩, ⟨[66, 67], .stderr, 1, 1⟩])
      firstChunksDelivered (by decide +kernel) ?_
  rintro node reached ⟨existing, emitted⟩
  exact ⟨emitted, output_exactlyOnce reached existing⟩

/-! ## Completeness -/

/-- If flushers start alone and no earlier run has closed the queue, all output
is upstream when a run returns from `drain`. -/
theorem output_complete_of_drained {opts : SessionOptions} {node node' : Node} {object index : Nat}
    (reached : Reaches step (checked (meets Session.startsAlone)) (new opts) node)
    (isOpen : (node.objects object).queue.closed = false)
    (returned : node.step (.act object (.run index .drained)) = some node') :
    (node.objects object).queue.emitted = (node.objects object).queue.appended := by
  obtain ⟨existing, moved⟩ := act_step returned
  obtain ⟨spec, reached⟩ := reaches_object reached existing
  refine OutputQueue.emitted_eq_of_empty (Session.reaches_solo reached) ?_
  have drained : (node.objects object).queue.drained = true := (Session.stepped moved).ready
  simpa [OutputQueue.drained, isOpen] using drained

theorem output_complete_of_drained_firstRun : ∃ node node' : Node,
      node.step (.act 0 (.run 0 .drained)) = some node' ∧
      (node.objects 0).queue.appended = [⟨[65], .stdout, 0, 0⟩, ⟨[66, 67], .stderr, 1, 1⟩] ∧
      (node.objects 0).queue.emitted = (node.objects 0).queue.appended := by
  obtain ⟨node, reached, returned, isOpen, appended⟩ :
      ∃ node, Reaches step (checked (meets Session.startsAlone)) (new claudeOptions) node ∧
        (node.step (.act 0 (.run 0 .drained))).isSome = true ∧
        (node.objects 0).queue.closed = false ∧
        (node.objects 0).queue.appended =
          [⟨[65], .stdout, 0, 0⟩, ⟨[66, 67], .stderr, 1, 1⟩] :=
    exists_reaches_of_run (firstChunksDelivered ++ exited 0 0) (by decide +kernel)
  obtain ⟨node', step⟩ := Option.isSome_iff_exists.mp returned
  exact ⟨node, node', step, appended, output_complete_of_drained reached isOpen step⟩

/-- The queue stays closed when a session's second run starts, so `drain`
returns with the run's output still queued. -/
theorem output_not_complete_of_drained :
    ¬∀ (opts : SessionOptions) (node node' : Node) (object index : Nat),
      Reaches step unrestricted (new opts) node →
        node.step (.act object (.run index .drained)) = some node' →
          (node.objects object).life.ctxDone index = false →
            ∀ chunk ∈ (node.objects object).queue.appended,
              chunk ∈ (node.objects object).queue.emitted := by
  intro complete
  obtain ⟨node, reached, returned, running, missing⟩ :
      ∃ node, Reaches step unrestricted (new claudeOptions) node ∧
        (node.step (.act 0 (.run 1 .drained))).isSome = true ∧
        (node.objects 0).life.ctxDone 1 = false ∧
        ¬∀ chunk ∈ (node.objects 0).queue.appended, chunk ∈ (node.objects 0).queue.emitted :=
    exists_reaches_of_run
      (firstRunPumping ++ exited 0 0 ++ tornDown 0 0 ++ started "s" ++ pumping 0 1 ++
        [.act 0 (.run 1 (.append [66] .stdout 0))] ++ exited 0 1)
      (by decide +kernel)
  obtain ⟨node', step⟩ := Option.isSome_iff_exists.mp returned
  exact missing (complete _ node node' 0 1 reached step running)

end Node

end LubricantNodes.Execution
