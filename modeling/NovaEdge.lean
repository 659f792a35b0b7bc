import NovaEdge.AgentConnectivity
import NovaEdge.AgentSession
import NovaEdge.BackendSplitting
import NovaEdge.BalancerCache
import NovaEdge.BasicAuthentication
import NovaEdge.BreakerRaces
import NovaEdge.BufferedTunnelWriter
import NovaEdge.ConfigGossip
import NovaEdge.ConfigReaders
import NovaEdge.ConfigStreamReceiver
import NovaEdge.ConnectionPool
import NovaEdge.EndpointPorts
import NovaEdge.FederationAntiEntropy
import NovaEdge.FederationBatching
import NovaEdge.FederationCoherence
import NovaEdge.FederationConvergence
import NovaEdge.FederationHealing
import NovaEdge.FederationLocalOrder
import NovaEdge.FederationManager
import NovaEdge.FederationRedelivery
import NovaEdge.FederationStreams
import NovaEdge.FederationTombstones
import NovaEdge.FirewallCoverage
import NovaEdge.GossipAccounting
import NovaEdge.HealthFlags
import NovaEdge.HostMatching
import NovaEdge.InFlightAccounting
import NovaEdge.IngressConvergence
import NovaEdge.IpFiltering
import NovaEdge.ListenerCertificates
import NovaEdge.ListenerFixpoint
import NovaEdge.LoadShedding
import NovaEdge.Maglev
import NovaEdge.MeshDecisions
import NovaEdge.MeshIdentity
import NovaEdge.MeshIptables
import NovaEdge.MeshNovaNet
import NovaEdge.MeshStreams
import NovaEdge.MeshTrust
import NovaEdge.OutlierDetection
import NovaEdge.PathSelection
import NovaEdge.ProxyProtocol
import NovaEdge.RequestForwarding
import NovaEdge.RetryBudget
import NovaEdge.RouteAttachment
import NovaEdge.SdwanProbing
import NovaEdge.SnapshotSurvival
import NovaEdge.SpiffeIdentities
import NovaEdge.StandaloneWatcher
import NovaEdge.StickySessions
import NovaEdge.TokenBuckets
import NovaEdge.TokenValidation
