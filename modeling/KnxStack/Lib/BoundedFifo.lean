import Mathlib.Data.List.Basic

/-!
# Histories of a bounded queue

A first-in first-out queue with a capacity, described by what its users see: entries accepted or refused
at the back, entries taken from the front, and attempts to take one that find nothing. `Replays` holds of
the histories in which a queue of that capacity answers so, with its content before and behind them.

- `Replays.conserves`: what was accepted is what was taken and what is still there, in order.
- `Replays.refused`: an entry is refused only by a full queue.
-/

set_option autoImplicit false

namespace KnxStack.Lib.BoundedFifo

universe u

variable {α : Type u}

/-- What a user of the queue sees. -/
inductive Event (α : Type u) where
  | accepted (a : α)
  | refused (a : α)
  | taken (a : α)
  | empty
  deriving DecidableEq, Repr

/-- The entry of an acceptance. -/
def Event.accepted? : Event α → Option α
  | .accepted a => some a
  | _ => none

/-- The entry that was taken. -/
def Event.taken? : Event α → Option α
  | .taken a => some a
  | _ => none

/-- A refusal. -/
def Event.isRefused : Event α → Bool
  | .refused _ => true
  | _ => false

/-- The entries that were accepted, in order. -/
def accepted (events : List (Event α)) : List α := events.filterMap Event.accepted?

/-- The entries that were taken, in order. -/
def taken (events : List (Event α)) : List α := events.filterMap Event.taken?

/-- How often an entry was refused. -/
def refusals (events : List (Event α)) : Nat := events.countP Event.isRefused

/-- One event of a queue. -/
inductive Answers (capacity : Nat) : List α → Event α → List α → Prop
  | accepted {queue : List α} {a : α} (h : queue.length < capacity) :
      Answers capacity queue (.accepted a) (queue ++ [a])
  | refused {queue : List α} {a : α} (h : queue.length = capacity) :
      Answers capacity queue (.refused a) queue
  | taken {queue : List α} {a : α} : Answers capacity (a :: queue) (.taken a) queue
  | empty : Answers capacity [] .empty []

/-- A history that takes the queue from one content to another. -/
inductive Replays (capacity : Nat) (queue : List α) : List (Event α) → List α → Prop
  | nil : Replays capacity queue [] queue
  | snoc {queue' queue'' : List α} {events : List (Event α)} {event : Event α}
      (before : Replays capacity queue events queue') (h : Answers capacity queue' event queue'') :
      Replays capacity queue (events ++ [event]) queue''

variable {capacity : Nat} {queue queue' : List α} {events : List (Event α)}

theorem accepted_snoc (events : List (Event α)) (event : Event α) :
    accepted (events ++ [event]) = accepted events ++ event.accepted?.toList := by
  cases h : event.accepted? <;> simp [accepted, h]

theorem taken_snoc (events : List (Event α)) (event : Event α) :
    taken (events ++ [event]) = taken events ++ event.taken?.toList := by
  cases h : event.taken? <;> simp [taken, h]

theorem refusals_snoc (events : List (Event α)) (event : Event α) :
    refusals (events ++ [event]) = refusals events + if event.isRefused then 1 else 0 := by
  simp [refusals, List.countP_append, List.countP_singleton]

theorem Replays.conserves (h : Replays capacity queue events queue') :
    queue ++ accepted events = taken events ++ queue' := by
  induction h with
  | nil => simp [accepted, taken]
  | snoc before h ih =>
    rw [accepted_snoc, taken_snoc, ← List.append_assoc, ih]
    cases h with
    | accepted h => simp [Event.accepted?, Event.taken?]
    | refused h => simp [Event.accepted?, Event.taken?]
    | taken => simp [Event.accepted?, Event.taken?]
    | empty => simp [Event.accepted?, Event.taken?]

theorem Replays.refused {a : α} (h : Replays capacity queue events queue') :
    ∀ {earlier later : List (Event α)}, events = earlier ++ .refused a :: later →
      ∃ full, Replays capacity queue earlier full ∧ full.length = capacity := by
  induction h with
  | nil =>
    intro earlier later hevents
    simp at hevents
  | snoc before h ih =>
    intro earlier later hevents
    rcases List.eq_nil_or_concat later with rfl | ⟨others, last, rfl⟩
    · -- The refusal is the last event.
      obtain ⟨rfl, hlast⟩ := List.append_inj' hevents rfl
      rw [List.singleton_inj] at hlast
      subst hlast
      cases h with
      | refused hfull => exact ⟨_, before, hfull⟩
    · rw [List.concat_eq_append, ← List.cons_append, ← List.append_assoc] at hevents
      exact ih (List.append_inj' hevents rfl).1

end KnxStack.Lib.BoundedFifo
