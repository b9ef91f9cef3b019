import LubricantNodes.Transition.Custody
import LubricantNodes.Execution.Inbox

/-!
# Where the inputs are

Every input that has arrived is in exactly one place: with `deliverInput`, in
`pendingInputs`, with the drain loop, with a goroutine that is to report it
failed, or in the log.
-/

namespace LubricantNodes.Execution

open Transition List Entry

/-- The input `deliverInput` checks for being a replay. -/
def Delivery.arrivals : Delivery → List Nat
  | arrived ticket => [ticket]
  | _ => []

/-- The input `deliverInput` is about to buffer. -/
def Delivery.reservations : Delivery → List Nat
  | reserved ticket => [ticket]
  | _ => []

/-- The input the drain loop has taken off the queue. -/
def Drainer.held : Drainer → List Nat
  | deliver _ _ ticket => [ticket]
  | write _ _ ticket _ => [ticket]
  | _ => []

namespace Entry

/-- The replay an entry acknowledges. -/
def replay : Entry → Option Nat
  | replayed ticket => some ticket
  | _ => none

/-- The input an entry reports failed. -/
def failure : Entry → Option Nat
  | failed ticket _ => some ticket
  | _ => none

/-- The input whose frame was written. -/
def writing : Entry → Option Nat
  | wrote _ ticket => some ticket
  | _ => none

end Entry

namespace Inbox

/-- What the places of an inbox hold.  Inputs that have not arrived and those
that failed without a message id are nowhere. -/
def contents (delivery : Delivery) (pending : List Nat) (drainer : Drainer)
    (reporter : Goroutine → Reporter) (log : List Entry) : Place → Option (List Nat)
  | .absent => none
  | .arrived => some delivery.arrivals
  | .reserved => some delivery.reservations
  | .replayed => some (log.filterMap Entry.replay)
  | .queued => some pending
  | .popped => some drainer.held
  | .failing goroutine => some ((reporter goroutine).todo.map Prod.fst)
  | .failed => some (log.filterMap Entry.failure)
  | .silent => none
  | .written => some (log.filterMap Entry.writing)

/-- Every input is in one place, and only inputs that have arrived are. -/
structure Placed (inbox : Inbox) : Prop where
  agrees : Agrees inbox.place
    (contents inbox.delivery inbox.pending inbox.drainer inbox.reporter inbox.log)
  fresh : ∀ ticket, inbox.arrivals ≤ ticket → inbox.place ticket = .absent

theorem placed_new : Placed new where
  agrees := by
    intro place listed found
    cases place <;> cases found <;>
      exact ⟨nodup_nil, by simp [new, Delivery.arrivals, Delivery.reservations, Drainer.held]⟩
  fresh := fun _ _ => rfl

variable {inbox inbox' : Inbox} {event : Event}

/-- Handing inputs to `reportInputFailure` moves them there. -/
theorem agrees_fail (agrees : Agrees inbox.place
      (contents inbox.delivery inbox.pending inbox.drainer inbox.reporter inbox.log))
    {goroutine : Goroutine} {tickets rest : List Nat} {reason : FailReason}
    {delivery : Delivery} {pending : List Nat} {drainer : Drainer} (source : Place)
    (elsewhere : ∀ other, source ≠ .failing other)
    (before : contents inbox.delivery inbox.pending inbox.drainer inbox.reporter inbox.log source =
      some (tickets ++ rest))
    (after : contents delivery pending drainer inbox.reporter inbox.log source = some rest)
    (keeps : ∀ other, other ≠ source →
      contents delivery pending drainer inbox.reporter inbox.log other =
        contents inbox.delivery inbox.pending inbox.drainer inbox.reporter inbox.log other) :
    Agrees (inbox.fail goroutine tickets reason).place
      (contents delivery pending drainer (inbox.fail goroutine tickets reason).reporter
        inbox.log) := by
  have others : ∀ other, other ≠ .failing goroutine →
      contents delivery pending drainer (inbox.fail goroutine tickets reason).reporter inbox.log
        other = contents delivery pending drainer inbox.reporter inbox.log other := by
    intro other different
    cases other with
    | failing reporting =>
      have apart : reporting ≠ goroutine := fun same => different (by rw [same])
      simp [contents, fail, apart]
    | _ => rfl
  refine agrees.handOver source (.failing goroutine) (elsewhere goroutine) ?_ ?_ before
    ((others source (elsewhere goroutine)).trans after) (.refl _)
  · rintro _ ⟨⟩
    exact ⟨_, rfl, by simp [fail, Function.comp_def]⟩
  · intro other notSource notTarget
    rw [others other notTarget, keeps other notSource]

theorem agrees_step (placed : Placed inbox) (step : inbox.step event = some inbox') :
    Agrees inbox'.place
      (contents inbox'.delivery inbox'.pending inbox'.drainer inbox'.reporter inbox'.log) := by
  have agrees := placed.agrees
  cases moves step with
  | arrive idle =>
    rw [idle] at agrees
    refine agrees.transfer .absent .arrived nofun ?_ ?_ (nodup_singleton _) ?_ nofun
    · rintro _ ⟨⟩
      exact ⟨[], rfl, .refl _⟩
    · intro other notSource notTarget
      cases other <;> first | rfl | exact absurd rfl (by assumption)
    · simpa using placed.fresh inbox.arrivals (Nat.le_refl _)
  | @replay ticket arrived =>
    rw [arrived] at agrees
    refine agrees.handOver .arrived .replayed nofun ?_ ?_ rfl rfl (.refl [ticket])
    · rintro _ ⟨⟩
      exact ⟨_, rfl, by simp [replay]⟩
    · intro other notSource notTarget
      cases other <;>
        first
        | rfl
        | exact absurd rfl (by assumption)
        | simp [contents, Entry.failure, Entry.writing]
  | @reserve ticket arrived | @forward ticket arrived =>
    rw [arrived] at agrees
    refine agrees.handOver .arrived .reserved nofun ?_ ?_ rfl rfl (.refl [ticket])
    · rintro _ ⟨⟩
      exact ⟨[], rfl, .refl _⟩
    · intro other notSource notTarget
      cases other <;> first | rfl | exact absurd rfl (by assumption)
  | reject reserved =>
    refine agrees_fail agrees .reserved nofun (by rw [reserved]; rfl) rfl ?_
    intro other notSource
    rw [reserved]
    cases other <;> first | rfl | exact absurd rfl (by assumption)
  | @enqueue ticket reserved =>
    rw [reserved] at agrees
    refine agrees.handOver .reserved .queued nofun ?_ ?_ rfl rfl (.refl [ticket])
    · rintro _ ⟨⟩
      exact ⟨_, rfl, .refl _⟩
    · intro other notSource notTarget
      cases other <;> first | rfl | exact absurd rfl (by assumption)
  | @ack ticket queued =>
    rw [queued] at agrees
    have unlisted : ∀ lists : Entry → Option Nat, lists (.received ticket) = none →
        filterMap lists (if (inbox.input ticket).messageId = "" then inbox.log
          else inbox.log ++ [.received ticket]) = inbox.log.filterMap lists := by
      intro lists other
      split_ifs <;> simp [other]
    generalize (if (inbox.input ticket).messageId = "" then inbox.log
      else inbox.log ++ [.received ticket]) = log at unlisted ⊢
    refine agrees.rearrange fun place listed found => ⟨listed, ?_, .refl _⟩
    cases place with
    | replayed => exact (congrArg some (unlisted replay rfl)).symm.trans found
    | failed => exact (congrArg some (unlisted failure rfl)).symm.trans found
    | written => exact (congrArg some (unlisted writing rfl)).symm.trans found
    | _ => exact found
  | finishRejecting before | finishDraining before =>
    rw [before] at agrees
    exact agrees
  | lockDispatch idle acked =>
    rw [idle, acked] at agrees
    exact agrees
  | lockRun before | checkEmpty before | checkNoStream before | checkDetached before
  | closeRacing before | reported before | failed before =>
    rw [before] at agrees
    exact agrees
  | checkClosed top =>
    refine agrees_fail agrees .queued nofun (congrArg some (append_nil _).symm) rfl ?_
    intro other notSource
    rw [top]
    cases other <;> first | rfl | exact absurd rfl (by assumption)
  | @checkPop owner index ticket rest top _ pending =>
    rw [top, pending] at agrees
    refine agrees.handOver .queued .popped nofun ?_ ?_ rfl rfl (.refl ([ticket] ++ rest))
    · rintro _ ⟨⟩
      exact ⟨[], rfl, .refl _⟩
    · intro other notSource notTarget
      cases other <;> first | rfl | exact absurd rfl (by assumption)
  | deliver held =>
    rw [held] at agrees
    exact agrees
  | deliverUnknown held | writeClosed held | writeFailed held =>
    refine agrees_fail agrees .popped nofun (by rw [held]; rfl) rfl ?_
    intro other notSource
    rw [held]
    cases other <;> first | rfl | exact absurd rfl (by assumption)
  | @write owner index ticket frame held =>
    rw [held] at agrees
    refine agrees.handOver .popped .written nofun ?_ ?_ rfl rfl (.refl [ticket])
    · rintro _ ⟨⟩
      exact ⟨_, rfl, by simp [writing]⟩
    · intro other notSource notTarget
      cases other <;>
        first
        | rfl
        | exact absurd rfl (by assumption)
        | simp [contents, Entry.failure, Entry.replay]
  | @writeDetached owner index ticket frame error held =>
    rw [held] at agrees
    refine agrees.handOver .popped .queued nofun ?_ ?_ rfl rfl (.refl [ticket])
    · rintro _ ⟨⟩
      exact ⟨_, rfl, (perm_append_singleton ticket _).symm⟩
    · intro other notSource notTarget
      cases other <;> first | rfl | exact absurd rfl (by assumption)
  | sweep =>
    refine agrees_fail agrees .queued nofun (congrArg some (append_nil _).symm) rfl ?_
    intro other notSource
    cases other <;> first | rfl | exact absurd rfl (by assumption)
  | @skip goroutine ticket reason rest before =>
    have listed : contents inbox.delivery inbox.pending inbox.drainer inbox.reporter inbox.log
        (.failing goroutine) = some ([ticket] ++ rest.map Prod.fst) := by simp [contents, before]
    refine agrees.handOver (.failing goroutine) .silent nofun nofun ?_ listed
      (by simp [contents]) (.refl _)
    intro other notSource notTarget
    cases other with
    | failing reporting =>
      have apart : reporting ≠ goroutine := fun same => notSource (by rw [same])
      simp [contents, apart]
    | _ => rfl
  | @emit goroutine ticket reason rest before =>
    have listed : contents inbox.delivery inbox.pending inbox.drainer inbox.reporter inbox.log
        (.failing goroutine) = some ([ticket] ++ rest.map Prod.fst) := by simp [contents, before]
    refine agrees.handOver (.failing goroutine) .failed nofun ?_ ?_ listed
      (by simp [contents]) (.refl _)
    · rintro _ ⟨⟩
      exact ⟨_, rfl, by simp [Entry.failure]⟩
    · intro other notSource notTarget
      cases other with
      | failing reporting =>
        have apart : reporting ≠ goroutine := fun same => notSource (by rw [same])
        simp [contents, apart]
      | failed => exact absurd rfl notTarget
      | replayed | written => simp [contents, replay, writing]
      | _ => rfl
  | @release goroutine ticket reason rest before =>
    refine agrees.rearrange fun place listed found => ⟨listed, ?_, .refl _⟩
    rw [← found]
    cases place with
    | failing reporting =>
      by_cases same : reporting = goroutine
      · subst same
        simp [contents, before]
      · simp [contents, same]
    | _ => rfl
  | install | attach | sequence | greet | refuse | close => exact agrees

/-- The ways an input goes from one place to another. -/
inductive Passes (inbox : Inbox) (event : Event) (ticket : Nat) : Place → Place → Prop
  | arrive {input : SessionInput} : event = .arrive input → ticket = inbox.arrivals →
      Passes inbox event ticket .absent .arrived
  | replay : event = .dedupe → (inbox.input ticket).dedupes = true →
      inbox.seen (inbox.input ticket).messageKey = true →
      Passes inbox event ticket .arrived .replayed
  | reserve : event = .dedupe →
      ((inbox.input ticket).dedupes = true →
        inbox.seen (inbox.input ticket).messageKey = false) →
      Passes inbox event ticket .arrived .reserved
  | reject : event = .enqueue → Passes inbox event ticket .reserved (.failing .dispatch)
  | enqueue : event = .enqueue → Passes inbox event ticket .reserved .queued
  | pop : Passes inbox event ticket .queued .popped
  | putBack : Passes inbox event ticket .popped .queued
  | write : Passes inbox event ticket .popped .written
  | sweep {goroutine : Goroutine} : Passes inbox event ticket .queued (.failing goroutine)
  | fail {goroutine : Goroutine} : Passes inbox event ticket .popped (.failing goroutine)
  | skip {goroutine : Goroutine} : (inbox.input ticket).messageId = "" →
      Passes inbox event ticket (.failing goroutine) .silent
  | emit {goroutine : Goroutine} : Passes inbox event ticket (.failing goroutine) .failed

variable {ticket : Nat}

theorem Passes.of_absent {place : Place} (passes : Passes inbox event ticket .absent place) :
    (∃ input, event = .arrive input) ∧ ticket = inbox.arrivals ∧ place = .arrived := by
  cases passes with
  | arrive arrives last => exact ⟨⟨_, arrives⟩, last, rfl⟩

theorem passes_of_move {place : Place} {moved : List Nat} (source target : Place)
    (after : place = if ticket ∈ moved then target else inbox.place ticket)
    (there : ticket ∈ moved → inbox.place ticket = source)
    (passes : ticket ∈ moved → Passes inbox event ticket source target) :
    place = inbox.place ticket ∨ Passes inbox event ticket (inbox.place ticket) place := by
  by_cases leaves : ticket ∈ moved
  · rw [after, if_pos leaves, there leaves]
    exact .inr (passes leaves)
  · exact .inl (after.trans (if_neg leaves))

/-- An input stays where it is or takes one of these ways. -/
theorem passes_of_step (placed : Placed inbox) (step : inbox.step event = some inbox')
    (ticket : Nat) :
    inbox'.place ticket = inbox.place ticket ∨
      Passes inbox event ticket (inbox.place ticket) (inbox'.place ticket) := by
  have there {place : Place} {listed : List Nat} (found : contents inbox.delivery inbox.pending
      inbox.drainer inbox.reporter inbox.log place = some listed) (mem : ticket ∈ listed) :
      inbox.place ticket = place := ((placed.agrees place listed found).2 ticket).mpr mem
  cases moves step with
  | arrive idle =>
    refine passes_of_move .absent .arrived rfl (fun moved => placed.fresh ticket ?_)
      fun moved => .arrive rfl (mem_singleton.mp moved)
    exact Nat.le_of_eq (mem_singleton.mp moved).symm
  | replay arrived dedupes seen =>
    refine passes_of_move .arrived .replayed rfl (there (by rw [arrived]; rfl)) fun moved => ?_
    rw [← mem_singleton.mp moved] at dedupes seen
    exact .replay rfl dedupes seen
  | reserve arrived dedupes seen =>
    refine passes_of_move .arrived .reserved rfl (there (by rw [arrived]; rfl)) fun moved => ?_
    rw [← mem_singleton.mp moved] at seen
    exact .reserve rfl fun _ => seen
  | forward arrived exempt =>
    refine passes_of_move .arrived .reserved rfl (there (by rw [arrived]; rfl)) fun moved => ?_
    rw [← mem_singleton.mp moved] at exempt
    exact .reserve rfl fun dedupes => by rw [exempt] at dedupes; contradiction
  | reject reserved =>
    exact passes_of_move .reserved (.failing .dispatch) rfl (there (by rw [reserved]; rfl))
      fun _ => .reject rfl
  | enqueue reserved =>
    exact passes_of_move .reserved .queued rfl (there (by rw [reserved]; rfl)) fun _ => .enqueue rfl
  | @checkClosed owner | @sweep owner =>
    exact passes_of_move .queued (.failing owner) rfl (there rfl) fun _ => .sweep
  | checkPop _ _ pending =>
    refine passes_of_move .queued .popped rfl (fun moved => there rfl ?_) fun _ => .pop
    rw [pending, mem_singleton.mp moved]
    exact mem_cons_self
  | @deliverUnknown owner _ _ _ held | @writeClosed owner _ _ _ _ held
  | @writeFailed owner _ _ _ _ held =>
    exact passes_of_move .popped (.failing owner) rfl (there (by rw [held]; rfl)) fun _ => .fail
  | write held =>
    exact passes_of_move .popped .written rfl (there (by rw [held]; rfl)) fun _ => .write
  | writeDetached held =>
    exact passes_of_move .popped .queued rfl (there (by rw [held]; rfl)) fun _ => .putBack
  | @skip goroutine head _ _ before blank =>
    refine passes_of_move (.failing goroutine) .silent rfl (fun moved => there rfl ?_)
      fun moved => ?_
    · rw [before, mem_singleton.mp moved]
      exact mem_cons_self
    · rw [← mem_singleton.mp moved] at blank
      exact .skip blank
  | @emit goroutine head _ _ before =>
    refine passes_of_move (.failing goroutine) .failed rfl (fun moved => there rfl ?_)
      fun _ => .emit
    rw [before, mem_singleton.mp moved]
    exact mem_cons_self
  | _ => exact .inl rfl

/-- Only an arrival brings an input. -/
theorem arrivals_of_step (step : inbox.step event = some inbox') :
    (∀ input, event ≠ .arrive input) ∧ inbox'.arrivals = inbox.arrivals ∧
        inbox'.input = inbox.input ∨
      ∃ input, event = .arrive input ∧ inbox'.arrivals = inbox.arrivals + 1 ∧
        inbox'.input = Function.update inbox.input inbox.arrivals input := by
  cases moves step with
  | arrive => exact .inr ⟨_, rfl, rfl, rfl⟩
  | _ => exact .inl ⟨fun _ => nofun, rfl, rfl⟩

theorem placed_step (placed : Placed inbox) (step : inbox.step event = some inbox') :
    Placed inbox' where
  agrees := agrees_step placed step
  fresh := fun ticket later => by
    have fresh : inbox.place ticket = .absent := by
      refine placed.fresh ticket ?_
      rcases arrivals_of_step step with ⟨-, same, -⟩ | ⟨-, -, more, -⟩ <;> omega
    rcases passes_of_step placed step ticket with same | passes
    · rw [same, fresh]
    rw [fresh] at passes
    obtain ⟨⟨input, arrives⟩, last, -⟩ := passes.of_absent
    rcases arrivals_of_step step with ⟨none, -⟩ | ⟨-, -, more, -⟩
    · exact absurd arrives (none input)
    · omega

theorem Placed.lt_arrivals (placed : Placed inbox)
    (present : inbox.place ticket ≠ .absent) : ticket < inbox.arrivals := by
  by_contra later
  exact present (placed.fresh ticket (Nat.le_of_not_lt later))

/-- The input that is being checked for a replay is the one `deliverInput` has. -/
theorem Placed.delivery_of_arrived (placed : Placed inbox)
    (arrived : inbox.place ticket = .arrived) : inbox.delivery = .arrived ticket := by
  have listed := ((placed.agrees .arrived _ rfl).2 ticket).mp arrived
  cases delivery : inbox.delivery <;> simp_all [Delivery.arrivals]

/-- An input that has arrived does not change. -/
theorem input_of_step (step : inbox.step event = some inbox')
    (arrived : ticket < inbox.arrivals) : inbox'.input ticket = inbox.input ticket := by
  rcases arrivals_of_step step with ⟨-, -, same⟩ | ⟨input, -, -, updated⟩
  · rw [same]
  · rw [updated, Function.update_of_ne (Nat.ne_of_lt arrived)]

theorem placed_of_reaches {ok : Discipline Inbox Event}
    (reached : Reaches Inbox.step ok new inbox) : Placed inbox :=
  reached.invariant placed_new fun _ placed _ step => placed_step placed step

end Inbox

end LubricantNodes.Execution
