import Q38Runtime.Executor
import Q38Runtime.JournalReopening
import Q38Runtime.MockBackend
import Q38Runtime.TransactionSafety
import Q38Runtime.Commitment
import Q38Runtime.SessionRefinement
import Q38Runtime.PleDraining
import Q38Runtime.PleRuns
import Q38Runtime.QsaGather
import Q38Runtime.QsaRows
import Q38Runtime.SpeculativeRows
import Q38Runtime.StagedUpload
import Q38Runtime.WeightAgreement
import Q38Runtime.ControlPlane
import Q38Runtime.PenaltyHistory
import Q38Runtime.SessionAgreement
import Q38Runtime.BatchIsolation
import Q38Runtime.PageCache
import Q38Runtime.PageTransparency
import Q38Runtime.SamplerRuns
import Q38Runtime.PleComparison
import Q38Runtime.GroupedExperts
import Q38Runtime.PleRanges
import Q38Runtime.ChunkSizes
import Q38Runtime.ReaderReturns
import Q38Runtime.RouterAgreement
import Q38Runtime.BoundaryChecksum
import Q38Runtime.RingLeases
import Q38Runtime.ChatStream
import Q38Runtime.RefusedRequests
import Q38Runtime.DeviceIndexRecords
import Q38Runtime.TensorIndexPairs
import Q38Runtime.AttentionAgreement
import Q38Runtime.CacheStructure
import Q38Runtime.FileFetching
import Q38Runtime.IdentityFiles
import Q38Runtime.InputHashes
import Q38Runtime.EvenRounding
import Q38Runtime.Fp8Encoding
import Q38Runtime.MarkerSearch
import Q38Runtime.ToolOutputs
import Q38Runtime.RpcAgreement
import Q38Runtime.RecurrentPrefill
import Q38Runtime.PreparationResumption
import Q38Runtime.ArenaUploads
import Q38Runtime.TranslatedRows
import Q38Runtime.SilentFailures
import Q38Runtime.SpeculativeDecoding
import Q38Runtime.WriterReplay
import Q38Runtime.WriterTruth
import Q38Runtime.PleBackend
import Q38Runtime.PleSpeculation
import Q38Runtime.CudaRuns
