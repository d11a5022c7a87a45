import Guardian.Acquisition.AcquisitionExact
import Guardian.App.FirmwareLifetime
import Guardian.App.NodeLinkSequences
import Guardian.Assurance.AssuranceTurns
import Guardian.Assurance.AuthenticationBinding
import Guardian.Assurance.BackendInterleavings
import Guardian.Assurance.CommitTruth
import Guardian.Assurance.EncodedKeys
import Guardian.Assurance.HostileInput
import Guardian.Assurance.TransactionAtomicity
import Guardian.Assurance.TransitionProgress
import Guardian.Channel.UndisturbedExchange
import Guardian.Control.Control
import Guardian.Control.ControlReplacement
import Guardian.Control.ControlRun
import Guardian.Control.ControlSafety
import Guardian.Crypto.Blake2b
import Guardian.Crypto.Scalar
import Guardian.Crypto.Sha256
import Guardian.Crypto.Sha256Standard
import Guardian.Crypto.SlidingWindow
import Guardian.Dsp.DspConsistent
import Guardian.Dsp.DspFft
import Guardian.Firmware.FirmwareActivation
import Guardian.Firmware.TrustedKeys
import Guardian.Health.HealthBaseline
import Guardian.Health.HealthPersistence
import Guardian.Health.HealthService
import Guardian.Host.EnvelopeAgreement
import Guardian.Host.FirmwareTransfer
import Guardian.Host.FrameAgreement
import Guardian.Host.MonitorCorrelation
import Guardian.Host.StatusAgreement
import Guardian.Host.StreamAgreement
import Guardian.Lib.ByteString
import Guardian.Lib.Device
import Guardian.Lib.Run
import Guardian.Lib.Word
import Guardian.MultiNode.CorrelationAccuracy
import Guardian.MultiNode.CorroborationOrder
import Guardian.MultiNode.CorroborationSoundness
import Guardian.MultiNode.EvidenceAgreement
import Guardian.MultiNode.NodeRegistry
import Guardian.MultiNode.Supervisor
import Guardian.NodeLink.AntiReplay
import Guardian.NodeLink.AntiReplayHistory
import Guardian.NodeLink.AntiReplayRun
import Guardian.NodeLink.AntiReplayService
import Guardian.NodeLink.FlashRefinement
import Guardian.NodeLink.Freshness
import Guardian.NodeLink.FreshnessEvaluation
import Guardian.NodeLink.IdentityAgreement
import Guardian.NodeLink.IngressClosure
import Guardian.NodeLink.IngressPayload
import Guardian.NodeLink.IngressProgress
import Guardian.NodeLink.NodeLinkAuth
import Guardian.NodeLink.NodeLinkCodec
import Guardian.NodeLink.PersistenceBackend
import Guardian.NodeLink.PersistenceCodec
import Guardian.NodeLink.PersistenceHistory
import Guardian.NodeLink.PersistenceImage
import Guardian.NodeLink.PersistenceRecovery
import Guardian.NodeLink.PersistenceRun
import Guardian.NodeLink.PersistenceSlots
import Guardian.NodeLink.PersistenceTransaction
import Guardian.NodeLink.PersistenceTransactionRun
import Guardian.NodeLink.PersistenceVocabulary
import Guardian.NodeLink.RollbackAnchor
import Guardian.NodeLink.SemanticResolver
import Guardian.NodeLink.SignedEnvelope
import Guardian.NodeLink.SignedEnvelopeExact
import Guardian.Platform.DmaExact
import Guardian.Platform.DmaTransfer
import Guardian.Platform.FaultsKept
import Guardian.Platform.LinkRequests
import Guardian.Platform.LinkSupervision
import Guardian.Platform.RpmExact
import Guardian.Platform.Uart2Exact
import Guardian.Protocol.CrcBurst
import Guardian.Protocol.ParserResync
import Guardian.Protocol.ParserStorage
import Guardian.Security.SecurityDomains
import Guardian.Security.SecurityReplay
import Guardian.Simulator.ControlAgreement
import Guardian.Simulator.FirmwareAgreement
import Guardian.Simulator.HealthAgreement
import Guardian.Simulator.SecurityAgreement
