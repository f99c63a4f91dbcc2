import Rathole.Agreement.Outcome
import Rathole.Client.Commands
import Rathole.Client.Handshake
import Rathole.Client.Heartbeat
import Rathole.Client.Loop
import Rathole.Client.Retry
import Rathole.Client.UdpEntries
import Rathole.Client.UdpLocks
import Rathole.Config.Defaults
import Rathole.ControlLink
import Rathole.HeartbeatLink
import Rathole.MultiMap.Raw
import Rathole.Process.Panics
import Rathole.Protocol.Frames
import Rathole.Prototype.Client
import Rathole.Prototype.Registry
import Rathole.Prototype.Waiting
import Rathole.Relay.CookieEcho
import Rathole.Proxy.Ranking
import Rathole.Proxy.Headers
import Rathole.Proxy.Health
import Rathole.Proxy.History
import Rathole.Relay.Addressee
import Rathole.Relay.Cleanup
import Rathole.Relay.ClientLoop
import Rathole.Relay.Leaks
import Rathole.Relay.Registry
import Rathole.Relay.ResponseHeaders
import Rathole.Relay.Sticky
import Rathole.Relay.Waiting
import Rathole.Run
import Rathole.Server.Pairing
import Rathole.Server.Reload
import Rathole.Server.Secrecy
import Rathole.Server.Sessions
import Rathole.Server.Stall
import Rathole.TcpServices.Delivery
import Rathole.Server.Rest
import Rathole.TcpTunnel
import Rathole.UdpReplies
import Rathole.Server.Replacement
import Rathole.Client.UdpOrigins
import Rathole.Relay.Idle
import Rathole.Relay.ProxyHandler
import Rathole.UdpPayloads
import Rathole.Relay.Calls
import Rathole.Lib.Smoothing
import Rathole.Proxy.Bookkeeping
import Rathole.Relay.Hardware
import Rathole.Relay.HealthRecords
import Rathole.Relay.Stale
import Rathole.HttpTunnel
import Rathole.Transport.Websocket
import Rathole.Server.UdpPool
import Rathole.Callers.Agreement
