import VoltStream.Relational.Newest
import VoltStream.Relational.Run
import VoltStream.Backend.OfflineDetection
import VoltStream.Proofs.SessionEffect
import VoltStream.Proofs.CurrentStateMirror
import VoltStream.Proofs.StorageConfluence
import VoltStream.Proofs.AlertAgreement
import VoltStream.Proofs.OfflineAgreement
import VoltStream.Proofs.ManualResolution
import VoltStream.Proofs.IncidentHistory
import VoltStream.Proofs.AlertChronology
import VoltStream.Proofs.RegistrationRace
import VoltStream.Proofs.DeadlockFreedom
import VoltStream.Proofs.AlertInterleaving
import VoltStream.Proofs.OverlappingBatches
import VoltStream.Proofs.DetectorGap
import VoltStream.Proofs.SoloSession
import VoltStream.Proofs.ExactlyOnce
import VoltStream.Proofs.FinalFlush
import VoltStream.Proofs.FeatureSkew
import VoltStream.Proofs.FeatureAgreement
import VoltStream.Proofs.RetryLoop
import VoltStream.Proofs.TickGranularity
import VoltStream.Proofs.BaselineExactness
import VoltStream.Proofs.HealthyDevice
import VoltStream.Proofs.BackendLimits
import VoltStream.Proofs.FanOut
import VoltStream.Proofs.IngestionTotality
import VoltStream.Proofs.CheckedDelivery
import VoltStream.Proofs.ConservativePrediction
import VoltStream.Proofs.CriticalTimestamp
import VoltStream.Proofs.BatteryIdGrammar
import VoltStream.Proofs.AlertPaging
import VoltStream.Proofs.FleetCounts
import VoltStream.Proofs.RapidDischarge
import VoltStream.Proofs.BackoffRange
import VoltStream.Proofs.RechargeLabels
import VoltStream.Proofs.DrainOutcome
import VoltStream.Proofs.IngestionCounters
import VoltStream.Proofs.SeedStreams
import VoltStream.Proofs.DashboardRecovery
import VoltStream.Proofs.LiveUpdates
import VoltStream.Proofs.StreamFormat
import VoltStream.Proofs.AsyncState
import VoltStream.Proofs.AlertsFreshness
import VoltStream.Proofs.DeviceAlerts
import VoltStream.Proofs.TrainingData
import VoltStream.Proofs.ServedModel
import VoltStream.Backend.BatteryService
import VoltStream.Backend.OfflineDetector
import VoltStream.Proofs.SilentBatteries
import VoltStream.Simulator.FleetRegistration
import VoltStream.Proofs.FleetRestarts
import VoltStream.Proofs.BatteryPages
