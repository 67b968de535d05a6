import RollbackLab.Error
import RollbackLab.Frame
import RollbackLab.FrameRing
import RollbackLab.LinearCongruence
import RollbackLab.LittleEndian
import RollbackLab.Pcg32
import RollbackLab.Simulation
import RollbackLab.Speculation
import RollbackLab.World
import RollbackLab.LegalWorld
import RollbackLab.Session
import RollbackLab.SessionRefinement
import RollbackLab.ConfirmedHistory
import RollbackLab.SessionFailure
import RollbackLab.SpeculativeWorld
import RollbackLab.SeededTransport
import RollbackLab.Bytes
import RollbackLab.Packet
import RollbackLab.PacketCodec
import RollbackLab.ReplayCodec
import RollbackLab.ReplayVerification
import RollbackLab.ScriptedInput
import RollbackLab.SequenceWindow
import RollbackLab.Report
import RollbackLab.PeerDriver
import RollbackLab.SessionFrames
import RollbackLab.Outcome
import RollbackLab.PeerPhases
import RollbackLab.ScriptedSession
import RollbackLab.DecodeErrors
import RollbackLab.PeerMessages
import RollbackLab.Handshake
import RollbackLab.PeerHonesty
import RollbackLab.HonestDriver
import RollbackLab.PeerNetwork
import RollbackLab.PeerAgreement
import RollbackLab.Corruption
import RollbackLab.DeliverySchedule
import RollbackLab.TransportOverflow
import RollbackLab.BattleLog
import RollbackLab.FiringRate
import RollbackLab.ScoreBalance
import RollbackLab.Battlefield
import RollbackLab.CanonicalBytes
import RollbackLab.Trace
import RollbackLab.LiveScenario
import RollbackLab.AttentiveSession
import RollbackLab.LiveMessages
import RollbackLab.EarliestDivergence
import RollbackLab.FreshSession
import RollbackLab.Json
import RollbackLab.ReportTexts
import RollbackLab.ReportMatching
import RollbackLab.LiveRun
import RollbackLab.TraceSampling
import RollbackLab.PlayedSession
import RollbackLab.DesyncMarker
import RollbackLab.PaidCorrections
import RollbackLab.Quotation
import RollbackLab.ChildProcess
import RollbackLab.BoundedDraws
import RollbackLab.TruthfulRun
import RollbackLab.RecordedRollbacks
import RollbackLab.MatchVerdict
import RollbackLab.LosslessTransport
import RollbackLab.LosslessRun
import RollbackLab.LosslessConvergence
import RollbackLab.ConstantLatency
import RollbackLab.LosslessDivergence
import RollbackLab.Lease
import RollbackLab.CApi
import RollbackLab.Borrowing
import RollbackLab.Arguments
import RollbackLab.Relay
import RollbackLab.RelayedMatch
import RollbackLab.PromptPeer
import RollbackLab.PromptPeers
import RollbackLab.PeerProcesses
import RollbackLab.DemoSupervisor
import RollbackLab.TraceTexts
import RollbackLab.CapturedTrace
import RollbackLab.StaleMatch
import RollbackLab.PropertySweep
import RollbackLab.SweepVerdict
import RollbackLab.DriverIsolation
import RollbackLab.ClientReads
