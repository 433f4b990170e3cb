import ChimpChaos.Proof.AnalysisRun
import ChimpChaos.Proof.Classification
import ChimpChaos.Proof.Convergence
import ChimpChaos.Proof.BlastRadius
import ChimpChaos.Proof.Coverage
import ChimpChaos.Proof.FaultInstalled
import ChimpChaos.Proof.FaultNamespace
import ChimpChaos.Proof.Finalizers
import ChimpChaos.Proof.ImpactMapStatus
import ChimpChaos.Proof.Isolation
import ChimpChaos.Proof.Preflight
import ChimpChaos.Proof.Racing
import ChimpChaos.Proof.Restart
import ChimpChaos.Proof.OwnJobs
import ChimpChaos.Proof.SpecEdits
import ChimpChaos.Proof.StaleReads
import ChimpChaos.Proof.EdgeResolution
import ChimpChaos.Proof.Reachability
import ChimpChaos.Proof.RunnerDecodes
import ChimpChaos.Proof.OwnerReferences
import ChimpChaos.Proof.FailedPasses
import ChimpChaos.Proof.TerminalCleanup
import ChimpChaos.Proof.Conflicts
import ChimpChaos.Proof.TransientErrors
import ChimpChaos.Proof.SharedHosts
import ChimpChaos.Proof.DurationText
import ChimpChaos.Proof.Readiness
import ChimpChaos.Proof.AnalysisTimes
import ChimpChaos.Proof.FaultDuration
import ChimpChaos.Proof.ImpactScore
import ChimpChaos.Proof.AffectedServices
import ChimpChaos.Proof.JobNames
import ChimpChaos.Proof.RunnerNamespace
import ChimpChaos.Proof.Parameters
import ChimpChaos.Proof.Interleaving
import ChimpChaos.Proof.CompletedAnalysis
import ChimpChaos.Proof.Deadlines
import ChimpChaos.Proof.AdmittedSpecs
import ChimpChaos.Proof.SampledReports
import ChimpChaos.Proof.RunnerProcess
import ChimpChaos.Cluster.Documents
import ChimpChaos.Proof.DocumentRefinement
import ChimpChaos.Proof.DocumentRuns
