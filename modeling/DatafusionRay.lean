import DatafusionRay.Batch.Codec
import DatafusionRay.Batch.CombinedStream
import DatafusionRay.Batch.MaxRows
import DatafusionRay.Batch.Prefetch
import DatafusionRay.Batch.ProcessorPool
import DatafusionRay.Batch.ProcessorService
import DatafusionRay.Batch.StageOptimizer
import DatafusionRay.Batch.StageReader
import DatafusionRay.Foundation.BigEndian
import DatafusionRay.Foundation.BoundedChannel
import DatafusionRay.Foundation.Execution
import DatafusionRay.Foundation.FileTree
import DatafusionRay.Foundation.FiniteMap
import DatafusionRay.Foundation.Interleaving
import DatafusionRay.Foundation.Interval
import DatafusionRay.Foundation.Polling
import DatafusionRay.Foundation.ReadModifyWrite
import DatafusionRay.Foundation.Sweep
import DatafusionRay.Foundation.ThreadLocal
import DatafusionRay.Foundation.TreeCopy
import DatafusionRay.Foundation.TryFilterMap
import DatafusionRay.Foundation.WireFormat
import DatafusionRay.Foundation.WorkList
import DatafusionRay.Proofs.AddressCover
import DatafusionRay.Proofs.BackgroundUploads
import DatafusionRay.Proofs.BarrierAgreement
import DatafusionRay.Proofs.BarrierMoves
import DatafusionRay.Proofs.BarrierRounds
import DatafusionRay.Proofs.BarrierSlots
import DatafusionRay.Proofs.ChannelCompletion
import DatafusionRay.Proofs.ChannelDelivery
import DatafusionRay.Proofs.ChannelMoves
import DatafusionRay.Proofs.ChannelPanics
import DatafusionRay.Proofs.ChannelShutdown
import DatafusionRay.Proofs.ChannelWakeups
import DatafusionRay.Proofs.CheckpointHistory
import DatafusionRay.Proofs.CheckpointLookup
import DatafusionRay.Proofs.CheckpointRace
import DatafusionRay.Proofs.CheckpointRestore
import DatafusionRay.Proofs.CheckpointSelection
import DatafusionRay.Proofs.CodecRoundTrip
import DatafusionRay.Proofs.CombinedPolling
import DatafusionRay.Proofs.ConsistentCut
import DatafusionRay.Proofs.CountSnapshots
import DatafusionRay.Proofs.CoverageSweep
import DatafusionRay.Proofs.DirectoryCopy
import DatafusionRay.Proofs.ExchangeDecoding
import DatafusionRay.Proofs.ExchangeRecovery
import DatafusionRay.Proofs.FiberAlignment
import DatafusionRay.Proofs.FiberMerge
import DatafusionRay.Proofs.FiberMoves
import DatafusionRay.Proofs.FiberPerAddress
import DatafusionRay.Proofs.FiberProgress
import DatafusionRay.Proofs.FiberRounds
import DatafusionRay.Proofs.FlightHydration
import DatafusionRay.Proofs.FlightTransport
import DatafusionRay.Proofs.IsolatedStage
import DatafusionRay.Proofs.KeyCounts
import DatafusionRay.Proofs.KeyTally
import DatafusionRay.Proofs.ListedSnapshots
import DatafusionRay.Proofs.LocalCopy
import DatafusionRay.Proofs.MergedAlignment
import DatafusionRay.Proofs.PartitionGathering
import DatafusionRay.Proofs.PausedStreams
import DatafusionRay.Proofs.PipelineRestart
import DatafusionRay.Proofs.PoolConsistency
import DatafusionRay.Proofs.Prefetching
import DatafusionRay.Proofs.RangeSplit
import DatafusionRay.Proofs.RejectedStart
import DatafusionRay.Proofs.RemoteStreams
import DatafusionRay.Proofs.RescaledCoverage
import DatafusionRay.Proofs.Rescaling
import DatafusionRay.Proofs.RowLimit
import DatafusionRay.Proofs.RowPartition
import DatafusionRay.Proofs.ScaledReads
import DatafusionRay.Proofs.ScheduledReads
import DatafusionRay.Proofs.SchedulingUpdates
import DatafusionRay.Proofs.SelectionChain
import DatafusionRay.Proofs.SharedClients
import DatafusionRay.Proofs.Shuffle
import DatafusionRay.Proofs.SingleFiber
import DatafusionRay.Proofs.SourceResume
import DatafusionRay.Proofs.StageMarking
import DatafusionRay.Proofs.StageReads
import DatafusionRay.Proofs.StateIds
import DatafusionRay.Proofs.StorageRequests
import DatafusionRay.Proofs.StreamDelivery
import DatafusionRay.Proofs.StreamFlow
import DatafusionRay.Proofs.StreamMoves
import DatafusionRay.Proofs.StreamSections
import DatafusionRay.Proofs.TaskErrors
import DatafusionRay.Proofs.UploadAccesses
import DatafusionRay.Proofs.UploadCompleteness
import DatafusionRay.Proofs.VersionedState
import DatafusionRay.Streaming.ActiveCoordinator
import DatafusionRay.Streaming.BackgroundSync
import DatafusionRay.Streaming.Barrier
import DatafusionRay.Streaming.BarrierSession
import DatafusionRay.Streaming.CheckpointRestore
import DatafusionRay.Streaming.CheckpointStorage
import DatafusionRay.Streaming.CheckpointUpload
import DatafusionRay.Streaming.ClientManager
import DatafusionRay.Streaming.Coordinator
import DatafusionRay.Streaming.CountByKey
import DatafusionRay.Streaming.CountStar
import DatafusionRay.Streaming.DataChannel
import DatafusionRay.Streaming.DirectoryCopy
import DatafusionRay.Streaming.ExchangeStore
import DatafusionRay.Streaming.FiberReuse
import DatafusionRay.Streaming.Fibers
import DatafusionRay.Streaming.FileSystem
import DatafusionRay.Streaming.FlightCodec
import DatafusionRay.Streaming.FlightSchema
import DatafusionRay.Streaming.Generation
import DatafusionRay.Streaming.Item
import DatafusionRay.Streaming.LocalCopy
import DatafusionRay.Streaming.MainLoop
import DatafusionRay.Streaming.MergedStream
import DatafusionRay.Streaming.NestedOperator
import DatafusionRay.Streaming.Operator
import DatafusionRay.Streaming.OperatorCodec
import DatafusionRay.Streaming.PartitionFilter
import DatafusionRay.Streaming.Partitioning
import DatafusionRay.Streaming.RemoteSource
import DatafusionRay.Streaming.RemoteStream
import DatafusionRay.Streaming.RunningStream
import DatafusionRay.Streaming.RunningTask
import DatafusionRay.Streaming.Scheduler
import DatafusionRay.Streaming.Source
import DatafusionRay.Streaming.StateBackend
import DatafusionRay.Streaming.WorkerProcess
