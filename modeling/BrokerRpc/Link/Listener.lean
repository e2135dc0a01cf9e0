import BrokerRpc.Link.Basic

/-! # Listeners

A listener holds a bound socket and accepts connections. To close it, a caller hands a request to
the loop, which passes it on to whoever holds the socket; only the first caller's request is
carried, and every caller gets a handle to wait on. Each definition here is one step.
-/
namespace BrokerRpc

abbrev CloseHandle := Nat

/-- A listener. `tasks` are requests that the loop has not run, `signal` is the one that whoever
holds the socket has not obeyed, and `finished` holds the handles whose wait is over. -/
structure Listener where
  bound : Bool := true
  /-- Nobody has asked to close yet. -/
  closable : Bool := true
  tasks : List CloseHandle := []
  signal : Option CloseHandle := none
  finished : List CloseHandle := []
  nextHandle : CloseHandle := 0
  accepted : Assoc Nat Link := []
  running : Bool := true
  deriving DecidableEq, Repr

namespace Listener

def bind (running : Bool) : Except Failure Listener :=
  if running then .ok {} else .error .loopStopped

/-- Asks to close. Without a loop the socket is gone already. -/
def close (l : Listener) : Listener × CloseHandle :=
  let handle := l.nextHandle
  let l := { l with nextHandle := handle + 1 }
  if l.closable ∧ l.running then
    ({ l with closable := false, tasks := l.tasks ++ [handle] }, handle)
  else ({ l with closable := false, finished := l.finished ++ [handle] }, handle)

/-- The loop runs the first request: it goes to whoever holds the socket, or is over at once. -/
def runTask (l : Listener) : Listener :=
  match l.tasks with
  | [] => l
  | handle :: tasks =>
    if l.bound then { l with tasks, signal := some handle }
    else { l with tasks, finished := l.finished ++ [handle] }

def obey (l : Listener) : Listener :=
  match l.signal with
  | some handle => { l with bound := false, signal := none, finished := l.finished ++ [handle] }
  | none => l

/-- Whoever holds the socket is gone without a request: the socket is released, and so the wait for
a request that was not obeyed is over. -/
def vanish (l : Listener) : Listener :=
  { l with bound := false, signal := none, finished := l.finished ++ l.signal.toList }

def accept (l : Listener) : Listener × Option Nat :=
  if l.bound then
    let number := l.accepted.length
    ({ l with accepted := l.accepted ++ [(number, .accepted)] }, some number)
  else (l, none)

def stopLoop (l : Listener) : Listener :=
  { l with
    running := false, bound := false, tasks := [], signal := none
    finished := l.finished ++ l.tasks ++ l.signal.toList
    accepted := l.accepted.map fun e => (e.1, e.2.stopLoop) }

/-- What a wait of at most `bound` gives, if nothing more happens. -/
def wait (l : Listener) (handle : CloseHandle) (bound : Duration) : Except Failure Unit :=
  if handle ∈ l.finished then .ok () else .error (.timeout bound)

end Listener
end BrokerRpc
