import Vsoshlb.Library.HashTable
import Vsoshlb.Library.Totals
import Vsoshlb.Library.Runs
import Vsoshlb.HashRing.ConsistentHash
import Vsoshlb.HashRing.Vip
import Vsoshlb.Library.Patches
import Vsoshlb.HashRing.VipRing
import Vsoshlb.HashRing.DeltaReplay
import Vsoshlb.Library.RoundRobin
import Vsoshlb.HashRing.Maglev
import Vsoshlb.HashRing.Agreement
import Vsoshlb.HashRing.Shares
import Vsoshlb.HashRing.Recalculation
import Vsoshlb.HashRing.Pieces
import Vsoshlb.ControlPlane.Address
import Vsoshlb.ControlPlane.State
import Vsoshlb.ControlPlane.Reals
import Vsoshlb.ControlPlane.Services
import Vsoshlb.ControlPlane.Routing
import Vsoshlb.ControlPlane.Calls
import Vsoshlb.ControlPlane.Footprint
import Vsoshlb.Library.IdPool
import Vsoshlb.ControlPlane.IdPools
import Vsoshlb.Library.RefCount
import Vsoshlb.ControlPlane.References
import Vsoshlb.Library.Image
import Vsoshlb.ControlPlane.VipMap
import Vsoshlb.ControlPlane.VipCounts
import Vsoshlb.ControlPlane.Batches
import Vsoshlb.ControlPlane.BatchRepeats
import Vsoshlb.ControlPlane.Repeats
import Vsoshlb.ControlPlane.QuicOverride
import Vsoshlb.ControlPlane.SrcRuleCounts
import Vsoshlb.ControlPlane.KernelTables
import Vsoshlb.ControlPlane.KernelCalls
import Vsoshlb.ControlPlane.RouteCounts
import Vsoshlb.ControlPlane.RefCounts
import Vsoshlb.ControlPlane.ServerIds
import Vsoshlb.Library.FlatArray
import Vsoshlb.ControlPlane.Rings
import Vsoshlb.ControlPlane.Replies
import Vsoshlb.Library.EarlyExit
import Vsoshlb.DataPlane.Packet
import Vsoshlb.DataPlane.Machine
import Vsoshlb.DataPlane.PacketHash
import Vsoshlb.DataPlane.Selection
import Vsoshlb.DataPlane.ProcessPacket
import Vsoshlb.DataPlane.Classification
import Vsoshlb.DataPlane.RoutingSteps
import Vsoshlb.DataPlane.HashFlags
import Vsoshlb.DataPlane.Stickiness
import Vsoshlb.DataPlane.LruKeys
import Vsoshlb.DataPlane.Freshness
import Vsoshlb.Library.Scan
import Vsoshlb.ControlPlane.LruAdmin
import Vsoshlb.ControlPlane.LruScans
import Vsoshlb.ControlPlane.LruStats
import Vsoshlb.ControlPlane.StoredKeys
import Vsoshlb.DataPlane.Encap
import Vsoshlb.ControlPlane.RealFamilies
import Vsoshlb.DataPlane.ConnectionIds
import Vsoshlb.DataPlane.ServerIdPaths
import Vsoshlb.DataPlane.TcpOptions
import Vsoshlb.DataPlane.OptionCursor
import Vsoshlb.Library.Streaks
import Vsoshlb.DataPlane.FloodLimiter
import Vsoshlb.ControlPlane.LruMissStats
import Vsoshlb.DataPlane.IcmpErrors
import Vsoshlb.Library.OnesComplement
import Vsoshlb.DataPlane.EchoReply
import Vsoshlb.DataPlane.Checksums
import Vsoshlb.DataPlane.EchoReplyV6
import Vsoshlb.DataPlane.TimeToLive
import Vsoshlb.Loader.BpfLoader
import Vsoshlb.Loader.ForwardingCores
import Vsoshlb.Loader.Atomicity
import Vsoshlb.Loader.FeatureSwap
import Vsoshlb.Tpr.PktRouter
import Vsoshlb.Tpr.Attachment
import Vsoshlb.Tpr.ServerId
import Vsoshlb.ControlPlane.ServerIdSpace
import Vsoshlb.Monitoring.ServiceCore
import Vsoshlb.Monitoring.ClientLimit
import Vsoshlb.Monitoring.Delivery
import Vsoshlb.Library.RingBuffer
import Vsoshlb.Library.Framing
import Vsoshlb.Monitoring.PcapWriter
import Vsoshlb.Monitoring.PerfRing
import Vsoshlb.Monitoring.EventPipe
import Vsoshlb.Monitoring.CaptureBuffers
import Vsoshlb.Monitoring.Monitor
import Vsoshlb.Monitoring.Reports
import Vsoshlb.Tpr.SockOps
import Vsoshlb.Tpr.Announcements
import Vsoshlb.Tpr.Echo
import Vsoshlb.Library.SideBySide
import Vsoshlb.Library.BoundedLog
import Vsoshlb.DataPlane.GueEncap
import Vsoshlb.DataPlane.Tunnels
import Vsoshlb.DataPlane.Healthcheck
import Vsoshlb.DataPlane.HealthcheckFrames
import Vsoshlb.DataPlane.HealthcheckTunnel
import Vsoshlb.ControlPlane.HealthcheckDsts
import Vsoshlb.System.Healthchecks
import Vsoshlb.DataPlane.Undelivered
import Vsoshlb.DataPlane.Forwarding
import Vsoshlb.DataPlane.UnknownIds
import Vsoshlb.DataPlane.Deliveries
import Vsoshlb.ControlPlane.Statistics
import Vsoshlb.System.Counters
import Vsoshlb.System.InvalidServerIds
import Vsoshlb.ControlPlane.Provenance
import Vsoshlb.System.Interleaving
import Vsoshlb.DataPlane.CompleteHeaders
import Vsoshlb.DataPlane.TooBig
import Vsoshlb.System.Simulator
import Vsoshlb.Decap.TcDecap
import Vsoshlb.Decap.GuePackets
import Vsoshlb.System.Decapsulation
