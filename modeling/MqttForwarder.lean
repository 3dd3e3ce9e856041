import MqttForwarder.Rust.Outcome
import MqttForwarder.Rust.Prog
import MqttForwarder.Api.Gw
import MqttForwarder.Api.Environment
import MqttForwarder.Rust.Text
import MqttForwarder.SemtechUdp.Datagram
import MqttForwarder.SemtechUdp.Fields
import MqttForwarder.SemtechUdp.PushData
import MqttForwarder.SemtechUdp.Downlink
import MqttForwarder.SemtechUdp.Backend
import MqttForwarder.Rust.Pool
import MqttForwarder.SemtechUdp.System
import MqttForwarder.Downlink.CacheInvariant
import MqttForwarder.Downlink.Handling
import MqttForwarder.Downlink.Safety
import MqttForwarder.Downlink.Refusal
import MqttForwarder.Downlink.Apart
import MqttForwarder.Downlink.Network
import MqttForwarder.Downlink.Course
import MqttForwarder.Downlink.Simulation
import MqttForwarder.Downlink.Protocol
import MqttForwarder.Downlink.Origins
import MqttForwarder.Downlink.Datagrams
import MqttForwarder.Downlink.Delivery
import MqttForwarder.Downlink.Independence
import MqttForwarder.Uplink.DataRates
import MqttForwarder.Uplink.Parsing
import MqttForwarder.Uplink.Forwarding
import MqttForwarder.Uplink.Batching
import MqttForwarder.Accounting.Books
import MqttForwarder.Statistics.Ledger
import MqttForwarder.Rust.Ownership
import MqttForwarder.Statistics.Moves
import MqttForwarder.Statistics.Reports
import MqttForwarder.Statistics.Offers
import MqttForwarder.Downlink.WayBack
import MqttForwarder.Serde.Rereading
import MqttForwarder.Downlink.Readback
import MqttForwarder.Mqtt.Topics
import MqttForwarder.Mqtt.Dispatch
import MqttForwarder.Rust.Channel
import MqttForwarder.Rust.History
import MqttForwarder.Rust.Broadcast
import MqttForwarder.Mqtt.Publishing
import MqttForwarder.Mqtt.Subscription
import MqttForwarder.Mqtt.Sessions
import MqttForwarder.Mqtt.OneGateway
import MqttForwarder.Mqtt.Relay
import MqttForwarder.Mqtt.Downlinks
import MqttForwarder.Mqtt.Origins
import MqttForwarder.Mqtt.Exactness
import MqttForwarder.Concentratord.Commands
import MqttForwarder.Concentratord.Replies
import MqttForwarder.Concentratord.Recovery
import MqttForwarder.Concentratord.Termination
import MqttForwarder.Downlink.FailedSends
import MqttForwarder.Downlink.Parameters
import MqttForwarder.SemtechUdp.Answers
import MqttForwarder.Serde.Spelling
import MqttForwarder.Uplink.Spelling
import MqttForwarder.Toml.Values
import MqttForwarder.Config.RoundTrip
import MqttForwarder.Statistics.AllOrNothing
import MqttForwarder.Concentratord.Events
import MqttForwarder.Concentratord.Forwarding
import MqttForwarder.Uplink.Filtering
import MqttForwarder.Downlink.Lifetime
import MqttForwarder.Metadata.Commands
import MqttForwarder.Metadata.Merging
import MqttForwarder.Commands.Exec
import MqttForwarder.Commands.Requests
import MqttForwarder.Substitution.Replace
import MqttForwarder.Substitution.Segments
import MqttForwarder.Substitution.Exactness
import MqttForwarder.Substitution.Lines
import MqttForwarder.Config.Assembly
import MqttForwarder.Main.Lifecycle
import MqttForwarder.Main.Restarts
import MqttForwarder.Mqtt.Connection
import MqttForwarder.Concentratord.Exactness
import MqttForwarder.Concentratord.Downlinks
import MqttForwarder.Concentratord.Setup
import MqttForwarder.Main.Startup
