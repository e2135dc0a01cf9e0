import BrokerRpc.Endpoint.Locator

/-! # Endpoints

An endpoint says where a broker listens and whether the connection is encrypted. It is given by a
locator such as `stomp://host:port`; each scheme has a port of its own.
-/
namespace BrokerRpc

structure Endpoint where
  host : String
  port : Nat
  tls : Bool
  deriving DecidableEq, Repr

namespace Endpoint

def defaultPlainPort : Nat := 61613

def defaultTlsPort : Nat := 61614

inductive Fault where
  | locator (fault : LocatorFault)
  | unsupportedScheme (scheme : String)
  | missingHost
  deriving DecidableEq, Repr

def Fault.message (given : String) : Fault → String
  | locator fault => "Invalid endpoint " ++ given ++ ": " ++ fault.message
  | unsupportedScheme scheme => "Invalid endpoint " ++ given ++ ": unsupported scheme " ++ scheme
  | missingHost => "Invalid endpoint " ++ given ++ ": missing host"

/-- Whether the scheme asks for encryption; `none` for a scheme that is not served. -/
def tlsOf? (scheme : String) : Option Bool :=
  if scheme = "stomp" ∨ scheme = "tcp" then some false
  else if scheme = "stomp+ssl" ∨ scheme = "ssl" then some true
  else none

def ofLocator (l : Locator) : Except Fault Endpoint :=
  match tlsOf? l.scheme with
  | none => .error (.unsupportedScheme l.scheme)
  | some tls =>
    match l.host with
    | none => .error .missingHost
    | some host =>
      .ok { host, port := l.port.getD (if tls then defaultTlsPort else defaultPlainPort), tls }

def parse (given : String) : Except Fault Endpoint :=
  match Locator.parse given with
  | .error fault => .error (.locator fault)
  | .ok l => ofLocator l

end Endpoint
end BrokerRpc
