import EchoMic.GuardedRuns
import EchoMic.TaskTable
import EchoMic.Streaks
import EchoMic.RingBuffers
import EchoMic.LapCounters
import EchoMic.ByteSearch
import EchoMic.Splitting
import EchoMic.TextPatterns
import EchoMic.Masking
import EchoMic.Simulations
import EchoMic.StabilityTriangle
import EchoMic.SlidingWindows
import EchoMic.KeyedCounters
import EchoMic.Keystreams
import EchoMic.BlockBuffers
import EchoMic.MontgomeryLadders
import EchoMic.PrimeCertificates
import EchoMic.JsonTexts
import EchoMic.JsonMembers
import EchoMic.RtpPacketSender
import EchoMic.RtpWireFraming
import EchoMic.RtpDecoding
import EchoMic.RtpRoundTrip
import EchoMic.InterleavedFrames
import EchoMic.PacketRate
import EchoMic.RtspRequestBuffer
import EchoMic.RtspRequestWaiting
import EchoMic.RtspRequestFraming
import EchoMic.RtspReplies
import EchoMic.InStreamRtsp
import EchoMic.DeviceSettings
import EchoMic.ThermalLatch
import EchoMic.SavedSettings
import EchoMic.DecimalTexts
import EchoMic.NumericSettings
import EchoMic.FactoryReset
import EchoMic.ScheduledReboot
import EchoMic.AutoThreshold
import EchoMic.TripRecord
import EchoMic.StreamTolerance
import EchoMic.AutoRecovery
import EchoMic.MillisDeadlines
import EchoMic.DualCorePipeline
import EchoMic.AudioTaskLifecycle
import EchoMic.AudioBufferBounds
import EchoMic.SocketOwnership
import EchoMic.StreamRestart
import EchoMic.LedOwnership
import EchoMic.HighpassFilter
import EchoMic.HighpassStability
import EchoMic.AutomaticGain
import EchoMic.AudioTaskExit
import EchoMic.StreamService
import EchoMic.StopConfirmation
import EchoMic.CaptureTimestamps
import EchoMic.EndpointResolution
import EchoMic.WireGuardManager
import EchoMic.WireGuardCalls
import EchoMic.WireGuardBackoff
import EchoMic.WireGuardSettings
import EchoMic.WireGuardImport
import EchoMic.ReplayWindow
import EchoMic.ByteOrder
import EchoMic.Base64Keys
import EchoMic.ChaCha20
import EchoMic.Poly1305Limbs
import EchoMic.Poly1305
import EchoMic.ChaCha20Poly1305
import EchoMic.Blake2s
import EchoMic.X25519Field
import EchoMic.X25519
import EchoMic.X25519Curve
import EchoMic.WireGuardKeys
import EchoMic.WireGuardPeers
import EchoMic.WireGuardHandshake
import EchoMic.HandshakeAgreement
import EchoMic.WireGuardMessages
import EchoMic.WireGuardInterface
import EchoMic.SilentPeer
import EchoMic.WireGuardPackets
import EchoMic.WireGuardDatagrams
import EchoMic.WireGuardNonces
import EchoMic.SessionExchange
import EchoMic.ImportAcceptance
import EchoMic.PrivateKeyMasking
import EchoMic.JsonEscaping
import EchoMic.WgStatusDocument
import EchoMic.LogHistory
