/-! A stop signal for any number of receivers. Signals go through a buffer of one place: `tail` counts
the signals sent, and each receiver has a cursor, the number of the next signal it has not seen.
A receiver that has fallen behind by more than one signal first learns how many it has missed. -/

namespace ErrorPages

structure Broadcast where
  tail : Nat := 0
  /-- The receivers, each with its cursor. -/
  cursors : List (String × Nat) := []
  /-- The coordinators, each of which can send and make receivers. -/
  coordinators : List String := []
deriving DecidableEq

namespace Broadcast

/-- A channel with one coordinator. -/
def start (coordinator : String) : Broadcast := { coordinators := [coordinator] }

def receivers (channel : Broadcast) : Nat := channel.cursors.length

def setCursor (channel : Broadcast) (id : String) (cursor : Nat) : Broadcast :=
  { channel with cursors := (id, cursor) :: channel.cursors.filter (·.1 ≠ id) }

/-- Makes a receiver, which sees the signals sent from now on, in place of any of its name. -/
def subscribe (channel : Broadcast) (id : String) : Broadcast := channel.setCursor id channel.tail

/-- Sends a signal. With no receivers it is lost. -/
def trigger (channel : Broadcast) : Broadcast :=
  if channel.cursors.isEmpty then channel else { channel with tail := channel.tail + 1 }

def addCoordinator (channel : Broadcast) (id : String) : Broadcast :=
  { channel with coordinators := id :: channel.coordinators.filter (· ≠ id) }

inductive Received where
  | signal
  | empty
  | closed
  | lagged (missed : Nat)
deriving DecidableEq

/-- What the receiver at a cursor is told, and where its cursor goes. -/
def receiveAt (channel : Broadcast) (cursor : Nat) : Received × Nat :=
  if cursor = channel.tail then
    (if channel.coordinators.isEmpty then .closed else .empty, cursor)
  else
    let held := channel.tail - 1
    if cursor = held then (.signal, cursor + 1) else (.lagged (held - cursor), held)

inductive Step where
  | subscribe (id coordinator : String)
  | trigger (coordinator : String)
  | clone (id coordinator : String)
  | count (coordinator : String)
  | receive (id : String)
  | dropReceiver (id : String)
  | dropCoordinator (id : String)
deriving DecidableEq

inductive Reply where
  | done
  | received (received : Received)
  /-- Whether there was something to drop. -/
  | dropped (present : Bool)
  | noReceiver
  | noCoordinator
deriving DecidableEq

/-- Acts through a coordinator that must be there. -/
def through (channel : Broadcast) (coordinator : String) (act : Broadcast → Broadcast) :
    Reply × Broadcast :=
  if coordinator ∈ channel.coordinators then (.done, act channel) else (.noCoordinator, channel)

def step (channel : Broadcast) : Step → Reply × Broadcast
  | .subscribe id coordinator => channel.through coordinator (·.subscribe id)
  | .trigger coordinator => channel.through coordinator trigger
  | .clone id coordinator => channel.through coordinator (·.addCoordinator id)
  | .count coordinator => channel.through coordinator id
  | .receive id =>
    match channel.cursors.lookup id with
    | none => (.noReceiver, channel)
    | some cursor =>
      let (received, cursor) := channel.receiveAt cursor
      (.received received, channel.setCursor id cursor)
  | .dropReceiver id =>
    (.dropped (channel.cursors.lookup id).isSome,
      { channel with cursors := channel.cursors.filter (·.1 ≠ id) })
  | .dropCoordinator id =>
    (.dropped (id ∈ channel.coordinators),
      { channel with coordinators := channel.coordinators.filter (· ≠ id) })

/-- The number of receivers, which only a coordinator can tell. -/
def receivers? (channel : Broadcast) : Option Nat :=
  if channel.coordinators.isEmpty then none else some channel.receivers

end Broadcast

end ErrorPages
