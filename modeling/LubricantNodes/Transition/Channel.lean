import Mathlib.Data.List.Basic
import LubricantNodes.Transition.Core

/-!
# FIFO channels

The purpose of a queue between a producer and a consumer, stated without its
implementation: values are sent, travel in order, and are received in order.
A channel may lose values in transit; without losses it conserves them.

An implementation is shown correct by exhibiting its states as states of a
channel such that its steps are executions of the channel.
-/

namespace LubricantNodes.Transition

universe u

/-- The values sent, those in transit and those received, each oldest first. -/
structure Channel (α : Type u) where
  sent : List α
  transit : List α
  received : List α

namespace Channel

variable {α : Type u} [DecidableEq α]

/-- The empty channel. -/
def new : Channel α := ⟨[], [], []⟩

/-- What can happen to a channel. -/
inductive Event (α : Type u)
  | send (value : α)
  | receive
  /-- Only `kept` stays in transit. -/
  | lose (kept : List α)

/-- One event on a channel. -/
def step : Step (Channel α) (Event α)
  | channel, .send value =>
    some { channel with
      sent := channel.sent ++ [value]
      transit := channel.transit ++ [value] }
  | ⟨sent, value :: transit, received⟩, .receive => some ⟨sent, transit, received ++ [value]⟩
  | ⟨_, [], _⟩, .receive => none
  | channel, .lose kept =>
    guarded (kept.Sublist channel.transit) { channel with transit := kept }

/-- Executions of a channel that loses nothing. -/
def lossless : Discipline (Channel α) (Event α)
  | _, .lose _ => False
  | _, _ => True

/-- Values are received in the order they were sent, and overtake nothing that
is still in transit. -/
theorem received_append_transit_sublist {channel : Channel α}
    (reached : Reaches step unrestricted new channel) :
    (channel.received ++ channel.transit).Sublist channel.sent := by
  refine reached.invariant (P := fun channel =>
    (channel.received ++ channel.transit).Sublist channel.sent) (List.Sublist.refl _) ?_
  intro before event after _ inOrder _ step
  match before, event with
  | ⟨sent, transit, received⟩, .send value =>
    cases step
    simpa only [List.append_assoc] using inOrder.append (List.Sublist.refl [value])
  | ⟨sent, value :: transit, received⟩, .receive =>
    cases step
    simpa only [List.append_assoc, List.singleton_append] using inOrder
  | ⟨sent, transit, received⟩, .lose kept =>
    obtain ⟨fewer, rfl⟩ := guarded_eq_some_iff.mp step
    exact (fewer.append_left received).trans inOrder

/-- A channel that loses nothing conserves what was sent. -/
theorem received_append_transit_eq {channel : Channel α}
    (reached : Reaches step lossless new channel) :
    channel.received ++ channel.transit = channel.sent := by
  refine reached.invariant (P := fun channel =>
    channel.received ++ channel.transit = channel.sent) rfl ?_
  intro before event after _ conserved keeps step
  match before, event with
  | ⟨sent, transit, received⟩, .send value =>
    cases step
    simp only [← List.append_assoc, conserved]
  | ⟨sent, value :: transit, received⟩, .receive =>
    cases step
    simpa only [List.append_assoc, List.singleton_append] using conserved
  | _, .lose _ => exact keeps.elim

end Channel

end LubricantNodes.Transition
