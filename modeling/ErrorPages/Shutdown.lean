import ErrorPages.Broadcast

/-! The start of a server next to the task that listens for termination signals. The program has a stop
channel; it spawns the listener with a coordinator of its own, makes the receiver of the server, and
lets the server wait on it. The listener installs its handler, takes the first termination signal,
triggers the channel and ends. Each task goes on in its own order, and neither waits for the other. -/

namespace ErrorPages

/-- How far the program has come. -/
inductive Shutdown.Program where
  | created
  | spawned
  | subscribed
  | waiting
  | stopped
deriving DecidableEq

/-- How far the listener has come. -/
inductive Shutdown.Listener where
  | absent
  | spawned
  | installed
  | signalled
  | done
deriving DecidableEq

/-- The program and the listener in the middle of their work, and the channel between them. -/
structure Shutdown where
  program : Shutdown.Program := .created
  listener : Shutdown.Listener := .absent
  channel : Broadcast := .start "program"
deriving DecidableEq

namespace Shutdown

/-- The first four are the program's. -/
inductive Action where
  | spawn
  | subscribe
  | wait
  | stop
  | install
  | signal
  | trigger
deriving DecidableEq

/-- What an action makes of a state in which it is the next one of its task. A server stops as soon as
its receiver is told anything at all. -/
def act (s : Shutdown) : Action → Option Shutdown
  | .spawn =>
    if s.program = .created then
      let channel := (s.channel.step (.clone "listener" "program")).2
      some { program := .spawned, listener := .spawned, channel }
    else none
  | .subscribe =>
    if s.program = .spawned then
      let channel := (s.channel.step (.subscribe "server" "program")).2
      some { s with program := .subscribed, channel }
    else none
  | .wait => if s.program = .subscribed then some { s with program := .waiting } else none
  | .stop =>
    let (reply, channel) := s.channel.step (.receive "server")
    if s.program = .waiting ∧ reply ≠ .received .empty then
      some { s with program := .stopped, channel }
    else none
  | .install => if s.listener = .spawned then some { s with listener := .installed } else none
  | .signal => if s.listener = .installed then some { s with listener := .signalled } else none
  | .trigger =>
    if s.listener = .signalled then
      let channel := (s.channel.step (.trigger "listener")).2
      some { s with listener := .done, channel := (channel.step (.dropCoordinator "listener")).2 }
    else none

def run (s : Shutdown) (actions : List Action) : Option Shutdown := actions.foldlM act s

def Subscribed (s : Shutdown) : Prop := s.program ∉ [.created, .spawned]

/-- A signal lies ready for the server. -/
def Pending (s : Shutdown) : Prop :=
  (s.channel.step (.receive "server")).1 = .received .signal

end Shutdown

end ErrorPages
