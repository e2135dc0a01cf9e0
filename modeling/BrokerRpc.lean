import BrokerRpc.Failure.Name
import BrokerRpc.Link.Listener
import BrokerRpc.Main
import BrokerRpc.Rpc.Timeline
import BrokerRpc.Proofs.Frame.Recovery
import BrokerRpc.Proofs.Link.Reassembly
import BrokerRpc.Proofs.Link.Lifecycle
import BrokerRpc.Proofs.Tracker.Departure
import BrokerRpc.Proofs.Tracker.Outcome
import BrokerRpc.Proofs.Tracker.Budget
import BrokerRpc.Proofs.Call.Offers
import BrokerRpc.Proofs.Publisher.Queue
import BrokerRpc.Proofs.Publisher.Lifetime
import BrokerRpc.Proofs.Publisher.Run
import BrokerRpc.Proofs.Publisher.Delivery
import BrokerRpc.Proofs.Publisher.Custody
import BrokerRpc.Proofs.Publisher.Sections
import BrokerRpc.Proofs.Publisher.Jobs
import BrokerRpc.Proofs.Publisher.Demand
import BrokerRpc.Proofs.Publisher.Registry
import BrokerRpc.Proofs.Publisher.Signals
import BrokerRpc.Proofs.Publisher.Protocol
import BrokerRpc.Proofs.Session.Arrival
import BrokerRpc.Proofs.Session.Broker
import BrokerRpc.Proofs.Session.Channels
import BrokerRpc.Proofs.Session.Transactions
import BrokerRpc.Proofs.Session.Connecting
import BrokerRpc.Proofs.Heartbeat.Agreement
import BrokerRpc.Proofs.Frame.Forwarding
import BrokerRpc.Proofs.Link.Journal
import BrokerRpc.Proofs.Link.Submission
import BrokerRpc.Proofs.Inbound.Dispatch
import BrokerRpc.Proofs.Rpc.Closing
import BrokerRpc.Proofs.Rpc.Refusal
import BrokerRpc.Proofs.Tracker.Order
import BrokerRpc.Proofs.Tracker.Ids
import BrokerRpc.Proofs.Rpc.Envelope
import BrokerRpc.Proofs.Rpc.Requests
import BrokerRpc.Proofs.Session.Routing
import BrokerRpc.Proofs.Publisher.Expiry
import BrokerRpc.Proofs.Settings.Retention
import BrokerRpc.Proofs.Shared.Singleton
import BrokerRpc.Proofs.Link.Pace
import BrokerRpc.Proofs.Session.Intervals
import BrokerRpc.Proofs.Frame.Progress
import BrokerRpc.Proofs.Settings.Overrides
import BrokerRpc.Proofs.Rpc.Masking
import BrokerRpc.Proofs.Event.Matching
import BrokerRpc.Proofs.Link.Release
import BrokerRpc.Proofs.Frame.Continuation
import BrokerRpc.Proofs.Heartbeat.Timers
import BrokerRpc.Proofs.Frame.Headers
