import EtherNetIP.Library.Outcome
import EtherNetIP.Library.Machine
import EtherNetIP.Cip.SlotAgreement
import EtherNetIP.Cip.Identification
import EtherNetIP.Cip.StreamAgreement
import EtherNetIP.Cip.ConnectionIds
import EtherNetIP.Cip.NodeSupply
import EtherNetIP.Cip.OwnerConflict
import EtherNetIP.Encap.SessionEnd
import EtherNetIP.Cip.CloseAll
import EtherNetIP.Cip.Refusals
import EtherNetIP.Library.RepeatedRequests
import EtherNetIP.Encap.MessageIsolation
import EtherNetIP.Encap.ConnectedReplies
import EtherNetIP.Cip.MulticastMaster
import EtherNetIP.Cip.ListenOnly
import EtherNetIP.Library.SequenceWindow
import EtherNetIP.Cip.DataReception
import EtherNetIP.Cip.DataStream
import EtherNetIP.Encap.PacketGrammar
import EtherNetIP.Cip.UnnumberedData
import EtherNetIP.Cip.Negotiation
import EtherNetIP.Cip.DataItems
import EtherNetIP.Cip.DataFreshness
import EtherNetIP.Encap.PacketMemory
import EtherNetIP.Encap.PacketAcceptance
import EtherNetIP.Encap.EnipMessage
import EtherNetIP.Cip.ProducedFrame
import EtherNetIP.Library.PairedTables
import EtherNetIP.Encap.SessionTables
import EtherNetIP.Encap.SocketTimers
import EtherNetIP.Encap.AnsweredPackets
import EtherNetIP.Library.DelaySlots
import EtherNetIP.Encap.DelayedReplies
import EtherNetIP.Encap.BroadcastReplies
import EtherNetIP.Library.StreamAddresses
import EtherNetIP.Cip.ClosingDown
import EtherNetIP.Cip.PathClass
import EtherNetIP.Cip.TransportRouting
import EtherNetIP.Encap.TcpFraming
import EtherNetIP.Cip.RequestedProperties
import EtherNetIP.Application.Assemblies
import EtherNetIP.Application.AssemblyStorage
import EtherNetIP.Application.DataExchange
import EtherNetIP.Application.MessageBounds
import EtherNetIP.Application.LifeCycle
import EtherNetIP.Encap.SessionBonds
import EtherNetIP.Library.Readers
import EtherNetIP.Cip.PathStages
import EtherNetIP.Cip.PathGrammar
import EtherNetIP.Cip.PathAccounting
import EtherNetIP.Cip.RegularPaths
import EtherNetIP.Cip.PathParsing
import EtherNetIP.Cip.ConnectionData
import EtherNetIP.Cip.PathReach
import EtherNetIP.Cip.AnnouncedOctets
import EtherNetIP.Cip.FrontOctets
import EtherNetIP.Cip.OwnOctets
import EtherNetIP.Cip.PacketInterval
import EtherNetIP.Cip.TickWalk
import EtherNetIP.Cip.CyclicProduction
import EtherNetIP.Cip.TickServices
import EtherNetIP.Cip.OpenedChannels
import EtherNetIP.Cip.JoinedEndpoint
import EtherNetIP.Application.Restart
import EtherNetIP.Cip.InstanceNumbers
import EtherNetIP.Library.LinkedSegments
import EtherNetIP.Utils.ListChanges
import EtherNetIP.Library.Decoders
import EtherNetIP.Modbus.DataStreams
import EtherNetIP.Modbus.Requests
import EtherNetIP.Modbus.Responses
import EtherNetIP.Modbus.RequestRoundTrip
import EtherNetIP.Modbus.FileRecordResponse
import EtherNetIP.Modbus.IdentificationFields
import EtherNetIP.Modbus.ResponseRoundTrip
import EtherNetIP.Modbus.ResponseViews
import EtherNetIP.Cip.PaddedPath
import EtherNetIP.Cip.PathCodec
import EtherNetIP.Cip.Triggering
import EtherNetIP.Cip.WatchdogValue
import EtherNetIP.Cip.TickVisits
import EtherNetIP.Cip.ProductionInhibit
import EtherNetIP.Cip.WatchdogTimers
import EtherNetIP.Cip.AttributeData
import EtherNetIP.Cip.InterfaceChecks
import EtherNetIP.Cip.AttributeDecoders
import EtherNetIP.Cip.AttributeServices
import EtherNetIP.Cip.AttributeEncoding
import EtherNetIP.Cip.NameMemory
import EtherNetIP.Cip.SetAttribute
import EtherNetIP.Cip.NameChecks
import EtherNetIP.Cip.AssemblyNotification
import EtherNetIP.Cip.DecodeOutcomes
import EtherNetIP.Cip.AttributeLists
import EtherNetIP.Cip.ListPasses
import EtherNetIP.Cip.GetList
import EtherNetIP.Cip.SetList
import EtherNetIP.Cip.ListBounds
import EtherNetIP.Cip.ListConsistency
import EtherNetIP.Cip.RoutedItems
import EtherNetIP.Cip.InternationalStrings
import EtherNetIP.Cip.StringRoundTrips
import EtherNetIP.Library.BinaryFloats
import EtherNetIP.Cip.RealNumbers
import EtherNetIP.Cip.NumberRoundTrips
import EtherNetIP.Cip.ConsumingSockets
import EtherNetIP.Library.PartialUpdates
import EtherNetIP.Modbus.BitVectors
import EtherNetIP.Modbus.ProcessImages
import EtherNetIP.Modbus.CreateResponse
import EtherNetIP.Modbus.UnchangedImages
import EtherNetIP.Modbus.AnnouncedCounts
import EtherNetIP.Modbus.BitSequences
import EtherNetIP.Modbus.BitIndices
import EtherNetIP.Library.PartialWrites
import EtherNetIP.Modbus.Checksums
import EtherNetIP.Modbus.FrameWrites
import EtherNetIP.Modbus.AsciiTransport
import EtherNetIP.Modbus.AsciiNoise
import EtherNetIP.Library.ReflectedCrc
import EtherNetIP.Modbus.CrcTables
import EtherNetIP.Modbus.RtuTransport
import EtherNetIP.Modbus.RtuRequests
import EtherNetIP.Modbus.RtuErrors
import EtherNetIP.Modbus.RtuFaults
import EtherNetIP.Modbus.RtuCalls
import EtherNetIP.Modbus.SharedTraffic
import EtherNetIP.Modbus.RtuResponses
import EtherNetIP.Modbus.RtuRoundTrips
import EtherNetIP.Modbus.TcpTransport
import EtherNetIP.Library.Rings
import EtherNetIP.Modbus.UsbReceiveCache
import EtherNetIP.Modbus.UsbReads
import EtherNetIP.Modbus.UsbSessions
import EtherNetIP.Application.NonVolatile
import EtherNetIP.Application.QosPersistence
import EtherNetIP.Application.StoredValues
