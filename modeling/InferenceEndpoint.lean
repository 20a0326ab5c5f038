import InferenceEndpoint.Library.GuardedRuns
import InferenceEndpoint.Library.OrderedDict
import InferenceEndpoint.Core.Record
import InferenceEndpoint.LoadGenerator.ConversationManager
import InferenceEndpoint.LoadGenerator.SampleOrder
import InferenceEndpoint.LoadGenerator.World
import InferenceEndpoint.LoadGenerator.AgenticStrategy
import InferenceEndpoint.LoadGenerator.Responses
import InferenceEndpoint.LoadGenerator.AgenticMoves
import InferenceEndpoint.LoadGenerator.AgenticCallbacks
import InferenceEndpoint.LoadGenerator.Ledger
import InferenceEndpoint.LoadGenerator.LedgerMoves
import InferenceEndpoint.LoadGenerator.MoveEffects
import InferenceEndpoint.LoadGenerator.PhaseRun
import InferenceEndpoint.LoadGenerator.PhaseSteps
import InferenceEndpoint.LoadGenerator.SessionTerminals
import InferenceEndpoint.LoadGenerator.InflightAccounting
import InferenceEndpoint.LoadGenerator.Completion
import InferenceEndpoint.LoadGenerator.Drain
import InferenceEndpoint.LoadGenerator.LoadStrategies
import InferenceEndpoint.EndpointClient.PoolOwnership
import InferenceEndpoint.Library.Msgpack
import InferenceEndpoint.Transport.PubSub
import InferenceEndpoint.Metrics.TokenBatchQueue
import InferenceEndpoint.Metrics.Publisher
import InferenceEndpoint.Metrics.MetricsTable
import InferenceEndpoint.Metrics.Aggregator
import InferenceEndpoint.LoadGenerator.LateIssue
import InferenceEndpoint.LoadGenerator.IssuanceSteps
import InferenceEndpoint.LoadGenerator.SampleBudget
import InferenceEndpoint.LoadGenerator.ConcurrencyBound
import InferenceEndpoint.LoadGenerator.IdleTimeout
import InferenceEndpoint.LoadGenerator.Instances
import InferenceEndpoint.LoadGenerator.Stages
import InferenceEndpoint.LoadGenerator.StrategyEnd
import InferenceEndpoint.LoadGenerator.PhaseEnd
import InferenceEndpoint.LoadGenerator.Waiting
import InferenceEndpoint.Library.Json
import InferenceEndpoint.Library.Regex
import InferenceEndpoint.Evaluation.Extractor
import InferenceEndpoint.Evaluation.BFCLv4Scorer
import InferenceEndpoint.LoadGenerator.Turns
import InferenceEndpoint.LoadGenerator.TurnMoves
import InferenceEndpoint.LoadGenerator.TurnAccounts
import InferenceEndpoint.LoadGenerator.TurnOutcomes
import InferenceEndpoint.LoadGenerator.TurnSequence
import InferenceEndpoint.Evaluation.BFCLExecution
import InferenceEndpoint.Evaluation.BFCLConversation
import InferenceEndpoint.Evaluation.BFCLMultiTurnRunner
import InferenceEndpoint.Evaluation.SweBenchService
import InferenceEndpoint.Evaluation.SweBenchOutcomes
import InferenceEndpoint.Compliance.OutputCaching
import InferenceEndpoint.DatasetManager.Transforms
import InferenceEndpoint.Commands.BuildPhases
import InferenceEndpoint.Library.CollectLoops
import InferenceEndpoint.Commands.ScoringArtifacts
import InferenceEndpoint.LoadGenerator.PhaseBudget
import InferenceEndpoint.LoadGenerator.SampleLedger
import InferenceEndpoint.Commands.AccuracyCoverage
import InferenceEndpoint.Evaluation.ScorerCoverage
import InferenceEndpoint.EndpointClient.Worker
import InferenceEndpoint.EndpointClient.ConnectionUse
import InferenceEndpoint.EndpointClient.PoolWakeups
import InferenceEndpoint.EndpointClient.ResponseReads
import InferenceEndpoint.Evaluation.RepeatSuffix
import InferenceEndpoint.Evaluation.SweBenchCapacity
import InferenceEndpoint.Library.BernoulliTrials
import InferenceEndpoint.Library.BracketedSearch
import InferenceEndpoint.Metrics.EarlyStopping
import InferenceEndpoint.Library.Grouping
import InferenceEndpoint.Evaluation.CodeGrading
import InferenceEndpoint.Evaluation.LcbServe
import InferenceEndpoint.Metrics.SeriesRecording
import InferenceEndpoint.Metrics.EventLog
import InferenceEndpoint.Metrics.FullRunOsl
import InferenceEndpoint.Metrics.SeriesReplay
import InferenceEndpoint.DatasetManager.AgenticInferenceDataset
import InferenceEndpoint.Library.AdjacentMerge
import InferenceEndpoint.Scripts.ConvertAgenticSnapshot
import InferenceEndpoint.Scripts.SnapshotTurns
import InferenceEndpoint.Scripts.SnapshotRoundTrip
import InferenceEndpoint.EndpointClient.SseStream
import InferenceEndpoint.EndpointClient.ReleaseAgain
import InferenceEndpoint.EndpointClient.StreamResults
import InferenceEndpoint.Metrics.FirstChunkViews
import InferenceEndpoint.Openai.Accumulator
import InferenceEndpoint.Library.AverageRanks
import InferenceEndpoint.Library.FirstMaximum
import InferenceEndpoint.Metrics.SteadyStateDiagnostics
import InferenceEndpoint.Metrics.LevelShift
import InferenceEndpoint.Metrics.AdaptiveWarmup
import InferenceEndpoint.Library.GreedySegments
import InferenceEndpoint.Metrics.PlateauSelection
import InferenceEndpoint.Metrics.RejectionReason
import InferenceEndpoint.Metrics.PlateauSegmentation
import InferenceEndpoint.Metrics.AcceptanceThreshold
import InferenceEndpoint.EndpointClient.IdleConnections
import InferenceEndpoint.EndpointClient.WorkerResults
import InferenceEndpoint.Metrics.BatchCounting
import InferenceEndpoint.Metrics.LoadgenWindow
import InferenceEndpoint.Library.BlockDraws
import InferenceEndpoint.LoadGenerator.TrajectoryDraws
import InferenceEndpoint.Transport.Receiver
import InferenceEndpoint.Transport.Sender
import InferenceEndpoint.LoadGenerator.SaltValidation
import InferenceEndpoint.DatasetManager.ConversationHistory
import InferenceEndpoint.DatasetManager.AgenticLoading
import InferenceEndpoint.LoadGenerator.ExpectedCount
import InferenceEndpoint.Metrics.TurnAccounting
import InferenceEndpoint.Sglang.Accumulator
import InferenceEndpoint.Config.DatasetString
import InferenceEndpoint.Evaluation.EventJoin
import InferenceEndpoint.Library.JsonRoundTrip
import InferenceEndpoint.Metrics.OutputText
import InferenceEndpoint.EndpointClient.CpuAffinity
import InferenceEndpoint.Core.ToolCallMerge
import InferenceEndpoint.Evaluation.ToolCallScoring
import InferenceEndpoint.Library.JsonKeys
import InferenceEndpoint.Evaluation.FunctionCallExtraction
import InferenceEndpoint.Evaluation.FunctionCallSoundness
import InferenceEndpoint.Evaluation.SweBenchPruning
import InferenceEndpoint.Evaluation.RunBookkeeping
import InferenceEndpoint.Library.RelabelKeys
import InferenceEndpoint.DatasetManager.FileLoading
import InferenceEndpoint.DatasetManager.ParserMapping
import InferenceEndpoint.DatasetManager.TransformReuse
import InferenceEndpoint.Library.DoubledEscapes
import InferenceEndpoint.Library.RegexReplace
import InferenceEndpoint.Library.SlotGathering
import InferenceEndpoint.Library.LiteralReplace
import InferenceEndpoint.Library.RegexGroups
import InferenceEndpoint.Config.EnvironmentVariables
import InferenceEndpoint.Evaluation.SecretRedaction
import InferenceEndpoint.Scripts.SnapshotVerifier
import InferenceEndpoint.Library.Binning
import InferenceEndpoint.Metrics.SeriesSampler
import InferenceEndpoint.Metrics.FinalSeries
import InferenceEndpoint.LoadGenerator.SessionCounters
