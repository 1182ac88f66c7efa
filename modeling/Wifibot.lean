import Wifibot.Library.Machine
import Wifibot.Library.Overlay
import Wifibot.Library.LittleEndian
import Wifibot.Library.Deadman
import Wifibot.Library.DescriptorTable
import Wifibot.Library.RoundedNumber
import Wifibot.Library.BitPoly
import Wifibot.Library.ShiftRegister
import Wifibot.Crc16
import Wifibot.Crc16Detection
import Wifibot.RawServer.SerialDecoder
import Wifibot.RawServer.DecoderSoundness
import Wifibot.RawServer.Resync
import Wifibot.RawServer.Server
import Wifibot.WindowsServer.Server
import Wifibot.RawServer.Command
import Wifibot.RawServer.Watchdog
import Wifibot.RawServer.StopFrame
import Wifibot.RawServer.Transports
import Wifibot.RawServer.TcpSession
import Wifibot.RawServer.Telemetry
import Wifibot.TelemetryReply
import Wifibot.RawServer.AlignedStream
import Wifibot.RawServer.WheelIsolation
import Wifibot.Dashboard.Telemetry
import Wifibot.Decoders
import Wifibot.Dashboard.Drive
import Wifibot.WindowsServer.Command
import Wifibot.WindowsServer.SerialFrame
import Wifibot.WindowsServer.Watchdog
import Wifibot.RawServer.SerialWire
import Wifibot.RawServer.Sessions
import Wifibot.RawServer.TcpThreads
import Wifibot.RawServer.Descriptors
import Wifibot.RawServer.PeriodicStream
import Wifibot.RawServer.FailedReads
import Wifibot.RequestKinds
import Wifibot.Crc16Remainder
import Wifibot.RawServer.Encoders
import Wifibot.RawServer.SerialStatus
import Wifibot.WindowsServer.Tuning
import Wifibot.Dashboard.Map
import Wifibot.Library.Simulation
import Wifibot.RawServer.Separation
import Wifibot.WindowsServer.Separation
import Wifibot.TwinServers
import Wifibot.RawServer.Refinement
import Wifibot.RawServer.Answers
import Wifibot.Crc16Frames
import Wifibot.Library.Channel
import Wifibot.RawServer.LossyNetwork
import Wifibot.TelemetryFormat
import Wifibot.MotorFormat
import Wifibot.Library.DecimalText
import Wifibot.Dashboard.Displays
import Wifibot.Dashboard.Connection
import Wifibot.WindowsServer.SerialDecoder
import Wifibot.SerialThreads
import Wifibot.Library.Lines
import Wifibot.Library.Pattern
import Wifibot.Library.PercentEncoding
import Wifibot.GpsServer.Sentence
import Wifibot.Dashboard.NumberText
import Wifibot.GpsServer.Server
import Wifibot.GpsServer.Trace
import Wifibot.Dashboard.Settings
