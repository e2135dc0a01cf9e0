/-! # Destinations

A client sends its requests to one destination of the broker and takes answers and events from
another.
-/
namespace BrokerRpc

/-- Where requests go, and where answers and events come from. -/
structure Destinations where
  requests : String
  responses : String
  deriving DecidableEq, Repr

def Destinations.standard : Destinations :=
  { requests := "rpc.requests", responses := "rpc.responses" }

end BrokerRpc
