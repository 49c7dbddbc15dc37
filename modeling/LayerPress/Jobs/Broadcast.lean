import LayerPress.Json.Basic

/-!
# Broadcasting events

A job's events go to whoever has subscribed to its channel by then. Each receiver keeps the last
sixty-four events it has not read and counts those it lost. An event sent to nobody is lost, and
what was sent stays readable whatever becomes of the job.
-/

namespace LayerPress

/-- What a job tells its subscribers. -/
inductive TaskEvent where
  | progress (stage : String)
  | result (data : Json)
  | error (message : String)
  | done
  deriving Repr, Inhabited

namespace TaskEvent

/-- The event after which a job sends nothing more. -/
def isTerminal : TaskEvent → Bool
  | progress _ | result _ => false
  | error _ | done => true

/-- The document of an event. -/
def document : TaskEvent → Json
  | progress stage => .object [("type", .string "progress"), ("stage", .string stage)]
  | result data => .object [("type", .string "result"), ("data", data)]
  | error message => .object [("type", .string "error"), ("message", .string message)]
  | done => .object [("type", .string "done")]

end TaskEvent

/-- The number of unread events a receiver keeps. -/
def channelCapacity : Nat := 64

/-- A subscription to a channel. -/
structure Receiver where
  id : Nat
  channel : Nat
  missed : Nat
  unread : List TaskEvent
  deriving Repr, Inhabited

/-- The receiver after one more event; beyond the capacity the oldest is lost. -/
def Receiver.push (r : Receiver) (e : TaskEvent) : Receiver :=
  if r.unread.length < channelCapacity then { r with unread := r.unread ++ [e] }
  else { r with missed := r.missed + 1, unread := r.unread.drop 1 ++ [e] }

/-- All channels and receivers, by number. -/
structure Broadcast where
  nextChannel : Nat
  nextReceiver : Nat
  receivers : List Receiver
  deriving Repr, Inhabited

namespace Broadcast

/-- No channel yet. -/
def empty : Broadcast := ⟨0, 0, []⟩

/-- A new channel. -/
def openChannel (b : Broadcast) : Nat × Broadcast :=
  (b.nextChannel, { b with nextChannel := b.nextChannel + 1 })

/-- A new receiver, which gets what is sent from now on. -/
def subscribe (b : Broadcast) (channel : Nat) : Nat × Broadcast :=
  (b.nextReceiver,
    { b with
      nextReceiver := b.nextReceiver + 1
      receivers := b.receivers ++ [⟨b.nextReceiver, channel, 0, []⟩] })

/-- The receivers of a channel. -/
def audience (b : Broadcast) (channel : Nat) : List Receiver :=
  b.receivers.filter (·.channel == channel)

/-- Sends an event to the receivers of a channel. -/
def send (b : Broadcast) (channel : Nat) (e : TaskEvent) : Broadcast :=
  { b with receivers := b.receivers.map fun r => if r.channel == channel then r.push e else r }

/-- The receiver of a number. -/
def receiver? (b : Broadcast) (id : Nat) : Option Receiver :=
  b.receivers.find? (·.id == id)

/-- Everything a receiver has not read, and the number of events it lost before. -/
def read (b : Broadcast) (id : Nat) : Nat × List TaskEvent × Broadcast :=
  match b.receiver? id with
  | none => (0, [], b)
  | some r =>
    (r.missed, r.unread,
      { b with receivers := b.receivers.map fun x =>
        if x.id == id then { x with missed := 0, unread := [] } else x })

/-- The broadcast without a receiver. -/
def unsubscribe (b : Broadcast) (id : Nat) : Broadcast :=
  { b with receivers := b.receivers.filter (·.id != id) }

end Broadcast

end LayerPress
