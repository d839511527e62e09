import HesaiSdk.Library.FloatRounding
import HesaiSdk.Library.BlockWalk
import HesaiSdk.Library.ByteLayout
import HesaiSdk.Lidar.Types
import HesaiSdk.UdpProtocol.PacketBytes
import HesaiSdk.UdpParser.GeneralParser
import HesaiSdk.UdpParser.Parser
import HesaiSdk.UdpProtocol.V14
import HesaiSdk.UdpParser.Compute
import HesaiSdk.UdpParser.Udp14Parser
import HesaiSdk.UdpParser.Udp14Accesses
import HesaiSdk.UdpProtocol.V14Message
import HesaiSdk.UdpParser.Udp14RoundTrip
import HesaiSdk.UdpParser.Udp61Parser
import HesaiSdk.UdpParser.Udp43Parser
import HesaiSdk.UdpParser.UdpParser
import HesaiSdk.Driver.Run
import HesaiSdk.UdpParser.Framing
import HesaiSdk.Driver.FrameInvariant
import HesaiSdk.UdpParser.Storing
import HesaiSdk.UdpParser.Capacity
import HesaiSdk.Driver.PointBound
import HesaiSdk.Driver.Completion
import HesaiSdk.UdpParser.PointParser
import HesaiSdk.Driver.Scheduling
import HesaiSdk.Library.Circle
import HesaiSdk.UdpParser.FrameSplit
import HesaiSdk.UdpParser.Rotation
import HesaiSdk.Driver.TimeLoss
import HesaiSdk.Container.BlockingRing
import HesaiSdk.Source.PcapHeaders
import HesaiSdk.Source.PcapSource
import HesaiSdk.Source.PcapFrames
import HesaiSdk.Source.PcapPlayback
import HesaiSdk.Source.PcapSaver
import HesaiSdk.Lidar.Receiving
import HesaiSdk.Lidar.Recording
import HesaiSdk.Ptc.Header
import HesaiSdk.Ptc.QueryCommand
import HesaiSdk.Ptc.Segmentation
import HesaiSdk.Ptc.Session
import HesaiSdk.Driver.Isolation
import HesaiSdk.Library.TextStream
import HesaiSdk.UdpParser.Correction
import HesaiSdk.UdpParser.TableAccess
import HesaiSdk.UdpParser.MechanicalBody
import HesaiSdk.UdpParser.Udp31Parser
import HesaiSdk.UdpParser.UdpP40Parser
import HesaiSdk.UdpParser.UdpP64Parser
import HesaiSdk.UdpParser.Udp32Parser
import HesaiSdk.UdpParser.TableBounds
import HesaiSdk.UdpParser.LossAccounting
import HesaiSdk.UdpParser.Redecoding
import HesaiSdk.UdpParser.RotationCuts
import HesaiSdk.Library.CyclicSearch
import HesaiSdk.UdpParser.MirrorField
import HesaiSdk.UdpParser.Udp43Correction
import HesaiSdk.UdpParserGpu.Udp43ParserGpu
import HesaiSdk.UdpParser.Udp47Parser
import HesaiSdk.UdpParser.RejectedLoad
import HesaiSdk.Library.Interpolation
import HesaiSdk.UdpParserGpu.Udp47ParserGpu
import HesaiSdk.Driver.TimeoutSplit
import HesaiSdk.UdpParser.CorrectionRows
import HesaiSdk.UdpParser.BinaryCorrection
import HesaiSdk.Library.BufferRead
import HesaiSdk.UdpParser.CorrectionExtent
import HesaiSdk.UdpParser.Udp14Firetimes
import HesaiSdk.UdpProtocol.ET
import HesaiSdk.UdpParser.EtParser
import HesaiSdk.UdpParser.EtBody
import HesaiSdk.UdpParser.EtDivision
import HesaiSdk.UdpParser.EtPacked
import HesaiSdk.UdpParser.Udp25Layout
import HesaiSdk.UdpParser.Udp26Returns
import HesaiSdk.UdpParser.EtCorrection
import HesaiSdk.UdpParser.EtCompute
import HesaiSdk.UdpParser.EtAdjustGrid
import HesaiSdk.UdpParser.EtMirror
import HesaiSdk.UdpParser.Udp72Parser
import HesaiSdk.UdpParser.Udp24Correction
import HesaiSdk.UdpParser.CorrectionGate
import HesaiSdk.Ptc.Encoding
import HesaiSdk.Ptc.OutputContract
import HesaiSdk.Source.PcapBoundaries
import HesaiSdk.Lidar.RecordBuffer
import HesaiSdk.UdpParser.Pacing
import HesaiSdk.UdpParser.Udp72Extent
import HesaiSdk.UdpParser.Udp72Binary
import HesaiSdk.UdpParser.ChannelConfig
import HesaiSdk.UdpParserGpu.Udp72ParserGpu
import HesaiSdk.UdpParser.ConfidencePaths
import HesaiSdk.Library.Simulation
import HesaiSdk.Container.RingDeque
import HesaiSdk.Library.BitSerial
import HesaiSdk.Ptc.Crc
import HesaiSdk.Source.PcapOpen
import HesaiSdk.Lidar.ThreadPool
import HesaiSdk.Lidar.RecordSession
import HesaiSdk.Lidar.SessionSeparation
import HesaiSdk.Library.Channel
import HesaiSdk.UdpParser.Gated
import HesaiSdk.UdpParser.Dispatch
import HesaiSdk.Driver.Startup
import HesaiSdk.Driver.Delivery
import HesaiSdk.Driver.Conservation
import HesaiSdk.Library.Segments
import HesaiSdk.UdpParser.Cutting
import HesaiSdk.Driver.FrameCut
import HesaiSdk.UdpParser.Cloud
import HesaiSdk.Driver.Cloud
import HesaiSdk.Library.Lockstep
import HesaiSdk.UdpParser.PointBlind
import HesaiSdk.Driver.GpuRun
import HesaiSdk.UdpProtocol.FaultMessage
import HesaiSdk.Driver.FaultMessages
import HesaiSdk.Library.TextWriter
import HesaiSdk.UdpParser.Firetimes
import HesaiSdk.UdpParser.AtxFiretimes
import HesaiSdk.Driver.AtxCloud
import HesaiSdk.Driver.WalkedCloud
import HesaiSdk.Library.MessageStream
import HesaiSdk.Ptc.Commands
