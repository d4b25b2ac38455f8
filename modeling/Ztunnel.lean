import Ztunnel.Dns.Matching
import Ztunnel.Firewall.Enforcement
import Ztunnel.Firewall.FailedApply
import Ztunnel.Firewall.NftComment
import Ztunnel.Firewall.NftSets
import Ztunnel.Identity.Backoffs
import Ztunnel.Identity.RefreshQueue
import Ztunnel.Inpod.Admin
import Ztunnel.Inpod.Ledger
import Ztunnel.Proxy.Baggage
import Ztunnel.Proxy.CapsuleStream
import Ztunnel.Proxy.Copy
import Ztunnel.Proxy.DatagramAccounting
import Ztunnel.Proxy.DatagramBudget
import Ztunnel.Proxy.Factory
import Ztunnel.Proxy.InboundDestination
import Ztunnel.Proxy.PoolWaiters
import Ztunnel.Proxy.RefCount
import Ztunnel.Proxy.ResponseSockets
import Ztunnel.Proxy.StreamCount
import Ztunnel.Proxy.TraceParent
import Ztunnel.State.Upstream
import Ztunnel.Tls.TrustDomain
import Ztunnel.Watcher.Convergence
import Ztunnel.Xds.Batch
import Ztunnel.Xds.Demand
import Ztunnel.Xds.KnownResources
import Ztunnel.Xds.OrderIndependence
import Ztunnel.Xds.Ports
import Ztunnel.Xds.Reload
import Ztunnel.Xds.ValidPolicies
