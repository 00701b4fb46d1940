import SkillScript.Vars
/-!
# The event bus

Events are published under a name. The bus keeps a journal of all of them; a
receiver listens to one name and remembers how much of the journal it has passed.
A receiver that is more than `depth` events behind has lost the oldest ones: it
is told once how many, and goes on with the oldest that is still kept.
-/
set_option autoImplicit false
namespace SkillScript

structure Event where
  name : String
  /-- The entity whose script has published the event. -/
  source : EntityId
  payload : Vars := ∅

structure Receiver where
  name : String
  /-- How many entries of the journal have been passed. -/
  position : Nat
deriving DecidableEq, Repr

structure Bus where
  capacity : Nat
  journal : Array Event := #[]
  /-- The names that live receivers of nodes listen to, one entry for each receiver. -/
  listeners : List String := []
  /-- The same for the receivers of the host. -/
  guests : List String := []

namespace Bus

def ofCapacity (capacity : Nat) : Bus := { capacity := capacity }

/-- How many events of one name are kept: the capacity, at least one, rounded up to a power
of two. -/
def depth (bus : Bus) : Nat :=
  (max bus.capacity 1).nextPowerOfTwo

def receivers (bus : Bus) (name : String) : Nat :=
  bus.listeners.count name + bus.guests.count name

def publish (bus : Bus) (event : Event) : Bus :=
  { bus with journal := bus.journal.push event }

/-- Publishes an event. The answer is how many receivers it reaches. -/
def send (bus : Bus) (event : Event) : Nat × Bus :=
  (bus.receivers event.name, bus.publish event)

def subscribe (bus : Bus) (name : String) : Receiver × Bus :=
  (⟨name, bus.journal.size⟩, { bus with listeners := name :: bus.listeners })

def unsubscribe (bus : Bus) (receiver : Receiver) : Bus :=
  { bus with listeners := bus.listeners.erase receiver.name }

/-- A new receiver of `name` for the host. -/
def welcome (bus : Bus) (name : String) : Receiver × Bus :=
  (⟨name, bus.journal.size⟩, { bus with guests := name :: bus.guests })

def dismiss (bus : Bus) (receiver : Receiver) : Bus :=
  { bus with guests := bus.guests.erase receiver.name }

def skip (bus : Bus) (receiver : Receiver) : Receiver :=
  { receiver with position := bus.journal.size }

/-- The part of the journal that a receiver has not passed. -/
def unread (bus : Bus) (receiver : Receiver) : List Event :=
  (bus.journal.extract receiver.position bus.journal.size).toList

def pending (bus : Bus) (receiver : Receiver) : List Event :=
  (bus.unread receiver).filter fun e => e.name = receiver.name

/-- Whether events were lost, and the events that can still be read. -/
def backlog (bus : Bus) (receiver : Receiver) : Bool × List Event :=
  let waiting := bus.pending receiver
  (decide (bus.depth < waiting.length), waiting.drop (waiting.length - bus.depth))

inductive Delivery where
  | empty
  | lagged (missed : Nat)
  | event (e : Event)

/-- The journal behind the first `n` events of `name`. -/
def passing (name : String) : Nat → List Event → List Event
  | 0, events => events
  | _ + 1, [] => []
  | n + 1, e :: rest => if e.name = name then passing name n rest else passing name (n + 1) rest

/-- The receiver after the first `n` events waiting for it. -/
def advance (bus : Bus) (receiver : Receiver) (n : Nat) : Receiver :=
  let rest := passing receiver.name n (bus.unread receiver)
  { receiver with position := bus.journal.size - rest.length }

/-- Takes one delivery: the next event, or the news that events were lost. -/
def receive (bus : Bus) (receiver : Receiver) : Delivery × Receiver :=
  let waiting := bus.pending receiver
  let missed := waiting.length - bus.depth
  if missed = 0 then
    match waiting with
    | [] => (.empty, bus.skip receiver)
    | e :: _ => (.event e, bus.advance receiver 1)
  else (.lagged missed, bus.advance receiver missed)

end Bus

end SkillScript
