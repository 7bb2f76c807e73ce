import Mathlib.Data.List.Basic

/-!
# The message queue

`MessageQueue.hpp` wraps `std::queue` with a lock, so every operation is one
atomic step on a first-in first-out list.  `front` and `pop` of an empty
`std::queue` are undefined behaviour and are partial here.
-/

namespace ProcessManagerService

/-- The queued messages, oldest first.  `popped` is a history variable: the
messages `pop` has removed so far, which no operation reads. -/
structure MessageQueue (Item : Type*) where
  items : List Item
  popped : List Item
  deriving DecidableEq

namespace MessageQueue

variable {Item : Type*}

/-- The default constructor. -/
def create : MessageQueue Item := ⟨[], []⟩

/-- Both overloads of `push`; the size they return is read by no caller. -/
def push (queue : MessageQueue Item) (message : Item) : MessageQueue Item :=
  { queue with items := queue.items ++ [message] }

def front (queue : MessageQueue Item) : Option Item :=
  queue.items.head?

def pop (queue : MessageQueue Item) : Option (MessageQueue Item) :=
  match queue.items with
  | [] => none
  | message :: items => some ⟨items, queue.popped ++ [message]⟩

def empty (queue : MessageQueue Item) : Bool :=
  queue.items.isEmpty

/-- Everything that has ever been pushed, in push order. -/
def pushed (queue : MessageQueue Item) : List Item :=
  queue.popped ++ queue.items

@[simp]
theorem items_push (queue : MessageQueue Item) (message : Item) :
    (queue.push message).items = queue.items ++ [message] := rfl

@[simp]
theorem popped_push (queue : MessageQueue Item) (message : Item) :
    (queue.push message).popped = queue.popped := rfl

@[simp]
theorem pushed_push (queue : MessageQueue Item) (message : Item) :
    (queue.push message).pushed = queue.pushed ++ [message] := by
  simp [pushed]

@[simp]
theorem empty_iff (queue : MessageQueue Item) :
    queue.empty = true ↔ queue.items = [] := by
  rw [empty, List.isEmpty_iff]

theorem front_of_items {queue : MessageQueue Item} {message : Item} {items : List Item}
    (hitems : queue.items = message :: items) : queue.front = some message := by
  rw [front, hitems, List.head?_cons]

theorem items_of_front {queue : MessageQueue Item} {message : Item}
    (hfront : queue.front = some message) : ∃ items, queue.items = message :: items :=
  List.head?_eq_some_iff.mp hfront

theorem pop_of_items {queue : MessageQueue Item} {message : Item} {items : List Item}
    (hitems : queue.items = message :: items) :
    queue.pop = some ⟨items, queue.popped ++ [message]⟩ := by
  rw [pop, hitems]

theorem items_of_pop {queue next : MessageQueue Item} (hpop : queue.pop = some next) :
    ∃ message, queue.items = message :: next.items := by
  cases hitems : queue.items with
  | nil => simp [pop, hitems] at hpop
  | cons message items =>
      rw [pop_of_items hitems] at hpop
      cases hpop
      exact ⟨message, rfl⟩

end MessageQueue

end ProcessManagerService
