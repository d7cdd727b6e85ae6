import KnxStack.Protocol.Tpdu
import KnxStack.Lib.Checked
import KnxStack.Lib.Runs
import KnxStack.Lib.Keyed
import KnxStack.Datalink.FrameCodec
import KnxStack.Netip.Cemi
import KnxStack.Transport.ConnectionState
import KnxStack.Transport.ConnectionTable
import KnxStack.Transport.IndexAllocation
import KnxStack.Transport.Layer
import KnxStack.Transport.Send
import KnxStack.Transport.Receive
import KnxStack.Transport.SingleConnection
import KnxStack.Transport.Calls
import KnxStack.Transport.ReceiveSafety
import KnxStack.Transport.Acknowledgement
import KnxStack.Transport.Pending
import KnxStack.Transport.Numbering
import KnxStack.Transport.PolledReceive
import KnxStack.Transport.Repetition
import KnxStack.Transport.Activity
import KnxStack.Transport.Watch
import KnxStack.Transport.Transmissions
import KnxStack.Transport.IdleTimeout
import KnxStack.Datalink.CodecInversion
import KnxStack.Datalink.Tp1Transmit
import KnxStack.Datalink.Tp1Receive
import KnxStack.Network.FilterTable
import KnxStack.Network.RoutingTableControl
import KnxStack.Network.NetworkLayer
import KnxStack.Network.CouplerRouting
import KnxStack.Network.TwoPortCoupler
import KnxStack.Lib.EdgeTree
import KnxStack.Network.TreeRouting
import KnxStack.Lib.Octets
import KnxStack.Objects.SecurityObject
import KnxStack.Security.SecureApplicationLayer
import KnxStack.Bau.SecurityPersistence
import KnxStack.Bau.ReplayProtection
import KnxStack.Bau.NonceFreshness
import KnxStack.Application.AccessPolicy
import KnxStack.Application.MemoryService
import KnxStack.Application.Property
import KnxStack.Bau.ManagedDevice
import KnxStack.Bau.ManagementServices
import KnxStack.Lib.Unwinding
import KnxStack.Bau.KeyConfidentiality
import KnxStack.Lib.Growing
import KnxStack.Objects.PropertyKernel
import KnxStack.Objects.LoadableTables
import KnxStack.Objects.CoreObjects
import KnxStack.Bau.ObjectPersistence
import KnxStack.Bau.ObjectRoundTrip
import KnxStack.Bau.ManagementOperations
import KnxStack.Bau.ManagedObjects
import KnxStack.Bau.OwnAddress
import KnxStack.Bau.DirtyTracking
import KnxStack.Bau.Download
import KnxStack.Bau.ParameterDownload
import KnxStack.Bau.GroupRuntime
import KnxStack.Bau.GroupSubscription
import KnxStack.Bau.KeyDerivation
import KnxStack.Netip.ControlPacket
import KnxStack.Netip.TunnelingClient
import KnxStack.Netip.TunnelingServer
import KnxStack.Lib.Delivery
import KnxStack.Netip.TunnelLoss
import KnxStack.Netip.SecureSession
import KnxStack.Netip.DecoderSafety
import KnxStack.Physical.BitAgreement
import KnxStack.Bau.ManagementAnswers
import KnxStack.Bau.PropertyServiceAgreement
import KnxStack.Bau.LayerRuns
import KnxStack.Bau.AnswerProtection
import KnxStack.Ets.ConfigLoader
import KnxStack.Physical.TpuartReceive
import KnxStack.Netip.DeviceManagement
import KnxStack.Ets.ParameterCatalogue
import KnxStack.Physical.DriverProgress
import KnxStack.Physical.MacBackend
import KnxStack.Physical.MacOutcome
import KnxStack.Physical.AckDecision
import KnxStack.Security.ReplayWindow
import KnxStack.Transport.FrameMetadata
import KnxStack.Network.FilterTableFile
import KnxStack.Security.DataSecure
import KnxStack.Transport.SendAtomicity
import KnxStack.Application.MemoryMap
import KnxStack.Application.MemoryRequests
import KnxStack.Bau.ServiceCodec
import KnxStack.Network.EchoSuppression
import KnxStack.Application.TelegramRateLimiter
import KnxStack.Bau.SaveDeferral
import KnxStack.Netip.TcpFrameChannel
import KnxStack.Objects.TableProperty
import KnxStack.Objects.SecurityArrays
import KnxStack.Bau.TransmitShaping
import KnxStack.Netip.SecureWrapperRoundTrip
import KnxStack.Netip.ConfigurationRequests
import KnxStack.Lib.BitFields
import KnxStack.Application.Dpt
import KnxStack.Application.DptRoundTrip
import KnxStack.Physical.LinkMonitor
import KnxStack.Physical.AckExpectation
import KnxStack.Objects.GroupObjectDescriptors
import KnxStack.Physical.IpMedia
import KnxStack.Lib.Ring
import KnxStack.Physical.MacReceive
import KnxStack.Physical.PolledWaits
import KnxStack.Physical.TpuartTransmit
import KnxStack.Netip.PlanRunner
import KnxStack.Bau.SaveRetry
import KnxStack.Application.AuthorizationService
import KnxStack.Security.CbcMac
import KnxStack.Protocol.TpduInPlace
import KnxStack.Lib.BoundedFifo
import KnxStack.Physical.MessageRing
import KnxStack.Ets.ZipReader
import KnxStack.Ets.ConfigTables
import KnxStack.Lib.CheckedWrites
import KnxStack.Ets.ConfigSave
import KnxStack.Ets.ParameterBlock
import KnxStack.Lib.JsonText
import KnxStack.Ets.ExportJson
import KnxStack.Security.SecureChannel
import KnxStack.Physical.TelegramPath
