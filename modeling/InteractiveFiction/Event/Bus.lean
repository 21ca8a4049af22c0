import InteractiveFiction.Event

/-!
Delivery of events to subscribers.

A subscription to an event's name is called before the subscriptions to every event, each group in
the order in which they were made.  Who is called is settled when an event is emitted: what
subscribers change while it is delivered counts for later events only.  A subscriber that fails does
no harm to the others, nor to the one that emitted the event.

* `Bus.subscribe`, `Bus.unsubscribe`, `Bus.emit`, `Bus.clear`, `Bus.count`.
* `Reaction`, `Subscriber`: what subscribers do when they are called, as data.
* `Bus.journal`: all that was done with a bus, and by whom.
-/

set_option autoImplicit false

namespace InteractiveFiction

/-- One thing that a subscriber does when an event reaches it.  Other subscribers, and the
subscriber itself, are known by their serials. -/
inductive Reaction where
  /-- Ends the subscription that it was called for. -/
  | leave
  | unsubscribe (event : String) (serial : Nat)
  | subscribe (event : String) (serial : Nat)
  | clear
  | emit (event : Event)
  /-- Fails; what would follow is not done. -/
  | fail
deriving DecidableEq

/-- A subscriber, by its serial, that is called for the events of a name.  There may be several such
subscriptions of one subscriber. -/
structure Subscription where
  event : String
  serial : Nat
deriving DecidableEq

/-- Emissions and calls are known by their places in the journal.  Where there is no actor, it is
done from outside. -/
inductive Incident where
  | did (actor : Option Nat) (reaction : Reaction)
  /-- What a call would do next could not be done, and the call fails there. -/
  | refused (call : Nat)
  | called (emission : Nat) (subscription : Subscription)
  | finished (emission : Nat)
deriving DecidableEq

/-- What a subscriber does may depend on all that happened, its call included. -/
structure Subscriber where ofConduct ::
  name : Document
  conduct : List Incident → List Reaction

/-- A subscriber that does the same whenever it is called. -/
def Subscriber.mk (name : Document) (reactions : List Reaction) : Subscriber :=
  .ofConduct name fun _ => reactions

structure Call where
  subscriber : Document
  event : Event
deriving DecidableEq

namespace Reaction

/-- A reaction, when it is known which subscription the subscriber was called for. -/
def resolve (caller : Subscription) : Reaction → Reaction
  | .leave => .unsubscribe caller.event caller.serial
  | reaction => reaction

/-- The subscriptions after a reaction, in the order in which they were made; of several that are
the same the oldest is ended first. -/
def change (subscriptions : List Subscription) : Reaction → List Subscription
  | .subscribe event serial => subscriptions ++ [⟨event, serial⟩]
  | .unsubscribe event serial => subscriptions.erase ⟨event, serial⟩
  | .clear => []
  | .leave | .emit _ | .fail => subscriptions

end Reaction

structure Bus where
  subscriptions : List Subscription := []
  /-- All subscribers that there have been; their serials are their places. -/
  subscribers : List Subscriber := []
  journal : List Incident := []

namespace Bus

def wildcard : String := "*"

/-- How deep events may be emitted from inside one another. -/
def depthLimit : Nat := 200

variable (bus : Bus)

def note (incident : Incident) : Bus :=
  { bus with journal := bus.journal ++ [incident] }

def carryOut (actor : Option Nat) (reaction : Reaction) : Bus :=
  { bus with subscriptions := reaction.change bus.subscriptions }.note (.did actor reaction)

def listeners (event : String) : List Subscription :=
  bus.subscriptions.filter fun s => s.event == event

/-- Whom an event of a name reaches, in order. -/
def targets (event : String) : List Subscription :=
  bus.listeners event ++ bus.listeners wildcard

/-! ## Subscribing -/

/-- Subscribes somebody new. -/
def subscribe (event : String) (subscriber : Subscriber) : Bus × Subscription :=
  let serial := bus.subscribers.length
  ({ bus with subscribers := bus.subscribers ++ [subscriber] }.carryOut none
    (.subscribe event serial), ⟨event, serial⟩)

def knows (serial : Nat) : Bool :=
  serial < bus.subscribers.length

/-- Subscribes somebody who is known, maybe to the same event once more. -/
def resubscribe (event : String) (serial : Nat) : Bus :=
  if bus.knows serial then bus.carryOut none (.subscribe event serial) else bus

/-- Ends a subscription, and tells whether there was one to end. -/
def unsubscribe (event : String) (serial : Nat) : Bus × Bool :=
  (bus.carryOut none (.unsubscribe event serial), bus.subscriptions.contains ⟨event, serial⟩)

def clear : Bus :=
  bus.carryOut none .clear

def count : Nat :=
  bus.subscriptions.length

/-! ## Delivery -/

section Delivery

-- How events are delivered that are emitted from inside a call; nothing if that is too deep.
variable (emit? : Option (Option Nat → Bus → Event → Bus))

/-- Does what a call does next, if that can be done. -/
def attempt (call : Nat) (bus : Bus) : Reaction → Option Bus
  | .emit event => emit?.map fun emit => emit (some call) bus event
  | .subscribe event serial =>
    if bus.knows serial then some (bus.carryOut (some call) (.subscribe event serial)) else none
  | reaction => some (bus.carryOut (some call) reaction)

/-- The reactions of one call, up to its failure. -/
def react (call : Nat) (bus : Bus) : List Reaction → Bus
  | [] => bus
  | reaction :: rest =>
    match attempt emit? call bus reaction with
    | some after => if reaction = .fail then after else react call after rest
    | none => bus.note (.refused call)

/-- Calls the subscriber of a subscription. -/
def call (emission : Nat) (bus : Bus) (subscription : Subscription) : Bus :=
  let called := bus.note (.called emission subscription)
  match bus.subscribers[subscription.serial]? with
  | some subscriber =>
    react emit? bus.journal.length called
      ((subscriber.conduct called.journal).map (Reaction.resolve subscription))
  | none => called

def deliverWith (actor : Option Nat) (bus : Bus) (event : Event) : Bus :=
  let emission := bus.journal.length
  ((bus.targets event.name).foldl (call emit? emission)
    (bus.carryOut actor (.emit event))).note (.finished emission)

end Delivery

/-- Delivers an event, with those that are emitted meanwhile from inside one another at most so
deep. -/
def deliver : Nat → Option Nat → Bus → Event → Bus
  | 0 => deliverWith none
  | depth + 1 => deliverWith (some (deliver depth))

def emit (event : Event) : Bus :=
  deliver depthLimit none bus event

/-! ## Calls -/

def nameOf (serial : Nat) : Document :=
  (bus.subscribers[serial]?.map Subscriber.name).getD .null

/-- Who was called, in order, and with which event. -/
def calls : List Call :=
  bus.journal.filterMap fun
    | .called emission subscription =>
      match bus.journal[emission]? with
      | some (.did _ (.emit event)) => some ⟨bus.nameOf subscription.serial, event⟩
      | _ => none
    | _ => none

end Bus

end InteractiveFiction
