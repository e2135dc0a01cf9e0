import BrokerRpc.Rpc.Client
import BrokerRpc.Settings.Basic
import BrokerRpc.Shared.Slot

/-! # Shared instances

All clients of a process share one loop for plain links, one for encrypted links and one worker for
responses. Settings are turned into a client on these.
-/
namespace BrokerRpc

structure LinkLoop where
  name : String
  tls : Bool
  deriving DecidableEq, Repr

def LinkLoop.plain : LinkLoop := ⟨"stomp-reactor", false⟩

def LinkLoop.encrypted : LinkLoop := ⟨"stomp-tls-reactor", true⟩

def boolText (b : Bool) : String := if b then "true" else "false"

def LinkLoop.text (l : LinkLoop) (running : Bool) : String :=
  "Reactor \x7b name: " ++ Text.quoted l.name ++ ", tls: " ++ boolText l.tls ++ ", running: " ++
    boolText running ++ " \x7d"

def Link.text (l : Link) : String :=
  let remote :=
    match l.remote with
    | some (host, port) => "Some((" ++ Text.quoted host ++ ", " ++ Text.decimal port ++ "))"
    | none => "None"
  "ReactorClient \x7b remote: " ++ remote ++ ", open: " ++ boolText l.isOpen ++ ", tls: None \x7d"

/-- A worker takes responses and events apart and keeps unclaimed events for a while. -/
structure WorkerSetup where
  parallelism : Nat
  retention : Duration
  deriving DecidableEq, Repr

structure Instances where
  plain : Slot LinkLoop := {}
  encrypted : Slot LinkLoop := {}
  worker : Slot WorkerSetup := {}
  deriving DecidableEq, Repr

structure OpenedClient where
  rpc : RpcClient
  tls : Bool
  loop : Nat
  worker : Nat
  deriving DecidableEq, Repr

namespace Instances

/-- The shared loop for plain links. `built` is how building one goes. -/
def plainLoop (s : Instances) (built : Except Failure Unit) : Except Failure (Nat × Instances) :=
  (s.plain.getOrMake fun _ => built.map fun _ => .plain).map fun (n, plain) => (n, { s with plain })

def encryptedLoop (s : Instances) (built : Except Failure Unit) :
    Except Failure (Nat × Instances) :=
  (s.encrypted.getOrMake fun _ => built.map fun _ => .encrypted).map
    fun (n, encrypted) => (n, { s with encrypted })

def responseWorker (s : Instances) (setup : WorkerSetup) (built : Except Failure Unit) :
    Except Failure (Nat × Instances) :=
  (s.worker.getOrMake fun _ => built.map fun _ => setup).map
    fun (n, worker) => (n, { s with worker })

def shutdown (s : Instances) : Instances :=
  { plain := s.plain.release, encrypted := s.encrypted.release, worker := s.worker.release }

def trustMaterial (anchor : String → Except Failure Unit) (s : Settings) : Except Failure Unit :=
  match s.trustAnchor with
  | none => .error (.tls (s.url ++ " requires a trust anchor"))
  | some path => anchor path

structure Builds where
  plain : Except Failure Unit := .ok ()
  encrypted : Except Failure Unit := .ok ()
  worker : Except Failure Unit := .ok ()

/-- The shared loop for an endpoint. `anchor` loads the trust anchor from a path. -/
def loopFor (s : Instances) (builds : Builds) (anchor : String → Except Failure Unit)
    (settings : Settings) (e : Endpoint) : Except Failure (Nat × Instances) :=
  if e.tls then
    match trustMaterial anchor settings with
    | .error failure => .error failure
    | .ok () => s.encryptedLoop builds.encrypted
  else s.plainLoop builds.plain

/-- Makes a client on a loop and the shared worker. Its responses are subscribed under the token. -/
def openOn (s : Instances) (builds : Builds) (settings : Settings) (token : String) (e : Endpoint)
    (loop : Nat) : Instances × Except Panic (Except Failure OpenedClient) :=
  match settings.eventRetention with
  | .error panic => (s, .error panic)
  | .ok retention =>
    match s.responseWorker ⟨settings.parallelism, retention⟩ builds.worker with
    | .error failure => (s, .ok (.error failure))
    | .ok (worker, s) =>
      let client := Client.new (.new e.host e.port settings.policy) settings.handshakeTimeout
      (s, .ok ((RpcClient.register client settings.destinations token).map
        fun (rpc, _) => { rpc, tls := e.tls, loop, worker }))

/-- Turns settings into a client. What was made before a failure or a panic stays. -/
def openClient (s : Instances) (builds : Builds) (anchor : String → Except Failure Unit)
    (settings : Settings) (token : String) :
    Instances × Except Panic (Except Failure OpenedClient) :=
  match settings.endpoint with
  | .error fault => (s, .ok (.error (.misuse (.other (fault.message settings.url)))))
  | .ok e =>
    match s.loopFor builds anchor settings e with
    | .error failure => (s, .ok (.error failure))
    | .ok (loop, s) => s.openOn builds settings token e loop

def view (s : Instances) (c : OpenedClient) : RpcClient :=
  let slot := if c.tls then s.encrypted else s.plain
  let client := c.rpc.client
  if slot.isAlive c.loop then c.rpc
  else { c.rpc with client := { client with link := client.link.stopLoop } }

end Instances
end BrokerRpc
