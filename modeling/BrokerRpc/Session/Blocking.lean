import BrokerRpc.Session.Client

/-! # Blocking operations

To connect and to say goodbye, a caller waits for the loop and for the broker. What goes on
meanwhile is up to the surroundings: how a dial ends, what happens between two attempts, and what
arrives while the caller waits. A result that a waiter gets once is its result for good.
-/
namespace BrokerRpc

/-- What goes on around a blocked caller. It has a state of its own, and it takes note of the effects
of the caller's own steps. -/
structure Surroundings (σ : Type) where
  dial : σ → Except Failure Unit × σ
  /-- What happens between two attempts. -/
  pause : Client → σ → Client × List Effect × σ
  /-- What happens while the caller waits for the broker. -/
  reply : Client → σ → Client × List Effect × σ
  note : List Effect → σ → σ

structure Blocked (σ α : Type) where
  client : Client
  effects : List Effect
  around : σ
  result : Except Failure α

def connectTimeout : Duration := .ofSeconds 10

namespace Client

variable {σ : Type}

/-- What a waiter of the link gets first. -/
def linkResult? (w : Waiter) (effects : List Effect) : Option (Except Failure Unit) :=
  effects.findSome? fun e =>
    match e with
    | .linkSettled r => if r.waiter = w then some r.result else none
    | _ => none

def sessionResult? (w : Waiter) (effects : List Effect) : Option (Except Failure Unit) :=
  effects.findSome? fun e =>
    match e with
    | .sessionSettled r => if r.waiter = w then some r.result else none
    | _ => none

def isConfirmed (token : String) (effects : List Effect) : Bool :=
  effects.any fun e =>
    match e with
    | .receipt t => t = token
    | _ => false

/-- Tries once to open the link. Without a loop no dial ever ends. -/
def attempt (around : Surroundings σ) (c : Client) (s : σ) : Blocked σ Unit :=
  match c.link.connectOnce with
  | (link, .settled result) => ⟨{ c with link }, [], s, result⟩
  | (link, .awaiting w dials) =>
    let c := { c with link }
    let dialled := dialEffects dials
    if c.link.running then
      let (ended, s) := around.dial s
      let (c, effects) := c.dialEnded ended
      ⟨c, dialled ++ effects, around.note (dialled ++ effects) s,
        (linkResult? w effects).getD (.error (.timeout connectTimeout))⟩
    else ⟨c, dialled, s, .error (.timeout connectTimeout)⟩

def tryLink (around : Surroundings σ) (policy : Policy) : Nat → Client → σ → Blocked σ Unit
  | 0, c, s => ⟨c, [], s, .error .closed⟩
  | attempts + 1, c, s =>
    let tried := attempt around c s
    match tried.result with
    | .ok () => tried
    | .error failure =>
      if attempts = 0 ∨ !policy.isRetryable failure then tried
      else
        let (c, waited, s) := around.pause tried.client tried.around
        let last := tryLink around policy attempts c s
        { last with effects := tried.effects ++ waited ++ last.effects }

/-- Opens the link and waits for it. The loop itself must not wait. -/
def connectLink (around : Surroundings σ) (onLoop : Bool) (c : Client) (s : σ) : Blocked σ Unit :=
  if onLoop then ⟨c, [], s, .error (.misuse .blockingConnect)⟩
  else tryLink around c.link.policy (max c.link.policy.retryNumber 1) c s

def dropWaiter (c : Client) (w : Waiter) : Client := { c with session := c.session.dropWaiter w }

def addWaiter (c : Client) : Client :=
  let s := c.session
  { c with session :=
      { s with waiters := s.waiters ++ [s.nextWaiter], nextWaiter := s.nextWaiter + 1 } }

def connect (around : Surroundings σ) (onLoop : Bool) (c : Client) (s : σ) : Blocked σ Unit :=
  if onLoop then ⟨c, [], s, .error (.misuse .blockingConnect)⟩
  else if c.isConnected then ⟨c, [], s, .ok ()⟩
  else
    let w := c.session.nextWaiter
    let opened := connectLink around false c.addWaiter s
    match opened.result with
    | .error failure => { opened with client := opened.client.dropWaiter w, result := .error failure }
    | .ok () =>
      let (c, replied, s) := around.reply opened.client opened.around
      let effects := opened.effects ++ replied
      match sessionResult? w effects with
      | some result => ⟨c, effects, s, result⟩
      | none => ⟨c.dropWaiter w, effects, s, .error (.timeout c.handshakeTimeout)⟩

/-- Says goodbye under a new token, if there is a session; the last part says whether the goodbye
was handed to the link. -/
def sayGoodbye (c : Client) (token : String) : Client × List Effect × Bool :=
  if c.isConnected then
    let c := { c with session := { c.session with receipt := some token } }
    match c.write (Session.disconnectFrame token) with
    | (c, effects, .ok ()) => (c, effects, true)
    | (c, effects, .error _) => (c, effects, false)
  else (c, [], false)

/-- Says goodbye, waits for the receipt, and closes the link for good in any case. The result says
whether the receipt arrived. -/
def disconnect (around : Surroundings σ) (onLoop : Bool) (token : String) (c : Client) (s : σ) :
    Blocked σ Bool :=
  if onLoop then ⟨c, [], s, .error (.misuse .blockingDisconnect)⟩
  else
    let (c, said, isSaid) := c.sayGoodbye token
    let s := around.note said s
    let (c, replied, s) := if isSaid then around.reply c s else (c, [], s)
    let (c, stopped) := c.stop
    ⟨c, said ++ replied ++ stopped, around.note stopped s,
      .ok (isSaid && isConfirmed token replied)⟩

end Client
end BrokerRpc
