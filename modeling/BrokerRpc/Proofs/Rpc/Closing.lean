import BrokerRpc.Proofs.Rpc.Blocking
import BrokerRpc.Proofs.Session.Stopped
import BrokerRpc.Proofs.Tracker.Loss

/-! # Closing

A client for calls that was closed stays closed. Its calls are completed, its session keeps nothing,
and nothing that callers, the loop or late dials do makes it write, connect or deliver again.
-/
namespace BrokerRpc.RpcClient

/-! ## What a closed client may still do -/

section Stopped
variable {r : RpcClient} (h : r.client.link.state = .stopped)
include h

end Stopped

/-! ## How a client is left -/

end BrokerRpc.RpcClient
