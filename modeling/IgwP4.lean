import IgwP4.Construction.Setup.EcmpGroup
import IgwP4.Construction.Setup.RedirectTables
import IgwP4.Construction.Setup.PacketTable
import IgwP4.Proof.Dataplane.P02IngressControls
import IgwP4.Construction.Setup.Gateway
import IgwP4.Proof.Dataplane.PipeAffinity
import IgwP4.Construction.Netlink.Memory
import IgwP4.Construction.Netlink.MessageLoop
import IgwP4.Proof.Netlink.MessageLoop
import IgwP4.Construction.Netlink.Gateways
import IgwP4.Construction.Netlink.RouteMessage
import IgwP4.Proof.Netlink.Gateways
import IgwP4.Proof.Netlink.RouteBytes
import IgwP4.Proof.Netlink.RouteMessage
import IgwP4.Proof.Netlink.Convergence
import IgwP4.Proof.Netlink.Deletion
import IgwP4.Proof.Setup.PacketTable
import IgwP4.Proof.Dataplane.CpuFrames
import IgwP4.Proof.Dataplane.TunnelPackets
import IgwP4.Proof.Setup.RedirectTables
import IgwP4.Proof.Dataplane.Deparsers
import IgwP4.Proof.Dataplane.BridgedPackets
import IgwP4.Proof.Dataplane.Redirections
import IgwP4.Construction.Setup.AclTable
import IgwP4.Proof.Setup.AclTable
import IgwP4.Proof.Dataplane.P02EgressControls
import IgwP4.Proof.Dataplane.Deliveries
import IgwP4.Proof.Dataplane.P02EgressPasses
import IgwP4.Proof.Dataplane.EgressMirroring
import IgwP4.Proof.Dataplane.Locations
import IgwP4.Proof.Dataplane.InboundAccounting
import IgwP4.Proof.Dataplane.Encapsulation
import IgwP4.Proof.Dataplane.InboundPasses
import IgwP4.Proof.Dataplane.P02IngressPasses
import IgwP4.Proof.Dataplane.WholePackets
import IgwP4.Proof.Dataplane.RoundTrips
import IgwP4.Proof.Dataplane.ParserAgreement
import IgwP4.Construction.Packet.Words
import IgwP4.Proof.Dataplane.HeaderChecksums
import IgwP4.Proof.Dataplane.InboundLookups
import IgwP4.Proof.Dataplane.InboundDeliveries
import IgwP4.Proof.Dataplane.InboundVisits
import IgwP4.Construction.Setup.Utils
import IgwP4.Construction.Setup.ConfigFile
import IgwP4.Proof.Setup.ConfigStores
import IgwP4.Proof.Setup.ConfigFile
import IgwP4.Proof.Setup.ConfigReading
import IgwP4.Construction.Packet.KeyedTable
import IgwP4.Construction.Setup.Initialisation
import IgwP4.Proof.Setup.TableWrites
import IgwP4.Proof.Setup.Initialisation
import IgwP4.Construction.Netlink.NeighMessage
import IgwP4.Proof.Netlink.NeighCache
import IgwP4.Proof.Netlink.NeighBounds
import IgwP4.Construction.Netlink.NexthopLoop
import IgwP4.Proof.Netlink.NexthopLoop
import IgwP4.Proof.Netlink.EcmpWalk
import IgwP4.Proof.Dataplane.Journeys
import IgwP4.Proof.Dataplane.RedirectedAddresses
import IgwP4.Proof.Dataplane.EncapsulationLengths
import IgwP4.Construction.Setup.MeterAdjust
import IgwP4.Proof.Dataplane.ByteAccounting
import IgwP4.Proof.Dataplane.TimeToLive
import IgwP4.Proof.Dataplane.UdpChecksums
import IgwP4.Proof.Setup.PuntDecision
import IgwP4.Proof.Dataplane.PuntedFrames
import IgwP4.Construction.Setup.Monitor
import IgwP4.Proof.Setup.Monitor
import IgwP4.Proof.Setup.MonitorRuns
import IgwP4.Construction.Setup.EtherAton
import IgwP4.Proof.Setup.EtherAton
import IgwP4.Proof.Setup.HostifRanges
import IgwP4.Construction.Apigen.Filters
import IgwP4.Proof.Apigen.TableFiles
import IgwP4.Construction.Apigen.ActionMap
import IgwP4.Proof.Apigen.ActionMap
import IgwP4.Construction.Setup.MacRewrite
import IgwP4.Proof.Setup.MacRewrite
import IgwP4.Construction.Setup.KnetFilters
import IgwP4.Proof.Dataplane.SkippedPackets
import IgwP4.Proof.Dataplane.CpuPasses
import IgwP4.Proof.Dataplane.Punts
import IgwP4.Proof.Dataplane.CpuRoundTrips
import IgwP4.Proof.Dataplane.HostExchanges
import IgwP4.Proof.Dataplane.Decapsulations
import IgwP4.Proof.Dataplane.Transparency
import IgwP4.Proof.Dataplane.TransportChecksums
import IgwP4.Proof.Dataplane.MeterApplications
import IgwP4.Proof.Dataplane.RedirectionChains
import IgwP4.Proof.Dataplane.RedirectionRoutes
import IgwP4.Proof.Dataplane.CarriedPackets
import IgwP4.Construction.Netlink.ControlPlane
import IgwP4.Construction.Structures.History
import IgwP4.Proof.Netlink.ControlPlane
import IgwP4.Proof.Netlink.LinkFailover
import IgwP4.Proof.Dataplane.ControlledEgress
import IgwP4.Proof.Dataplane.Envelopes
import IgwP4.Construction.Dataplane.MirrorCopies
import IgwP4.Proof.Dataplane.MirrorCopies
import IgwP4.Proof.Dataplane.Policing
import IgwP4.Construction.Setup.MonitorRounds
import IgwP4.Proof.Dataplane.Sessions
import IgwP4.Proof.Setup.CounterLogs
import IgwP4.Construction.Netlink.ReceiveThread
import IgwP4.Proof.Netlink.ReceiveThread
