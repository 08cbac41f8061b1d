import Qwen3xOrin.Core.Sha256
import Qwen3xOrin.Decode.AttentionLaunch
import Qwen3xOrin.Decode.GreedyArgmax
import Qwen3xOrin.Decode.Scale6
import Qwen3xOrin.Decode.Scale6Exact
import Qwen3xOrin.Engine.Generate
import Qwen3xOrin.Engine.PrefillWitness
import Qwen3xOrin.Engine.Transaction
import Qwen3xOrin.Engine.WholeRequest
import Qwen3xOrin.Fp8.GemmExact
import Qwen3xOrin.Fp8.PackExact
import Qwen3xOrin.Fp8.Ring
import Qwen3xOrin.Fp8.Supermatrix
import Qwen3xOrin.Fp8.Tiles
import Qwen3xOrin.Gdn.CausalConv
import Qwen3xOrin.Gdn.CompactQk
import Qwen3xOrin.Gdn.CompactRun
import Qwen3xOrin.Gdn.ConvAccesses
import Qwen3xOrin.Gdn.ConvCuts
import Qwen3xOrin.Gdn.ConvPrompt
import Qwen3xOrin.Gdn.ConvSpans
import Qwen3xOrin.Gdn.ConvVariants
import Qwen3xOrin.Gdn.TokenTiles
import Qwen3xOrin.Generation.Alike
import Qwen3xOrin.Generation.ChunkSize
import Qwen3xOrin.Generation.Completed
import Qwen3xOrin.Generation.Control
import Qwen3xOrin.Generation.Frame
import Qwen3xOrin.Generation.PrefillModes
import Qwen3xOrin.Generation.PrefillPhase
import Qwen3xOrin.Generation.PrefixFold
import Qwen3xOrin.Generation.PrefixPhase
import Qwen3xOrin.Generation.Run
import Qwen3xOrin.Generation.Tiling
import Qwen3xOrin.Generation.Types
import Qwen3xOrin.Io.Json
import Qwen3xOrin.Io.JsonBudgets
import Qwen3xOrin.Io.JsonComplete
import Qwen3xOrin.Io.JsonDoubles
import Qwen3xOrin.Io.JsonGrammar
import Qwen3xOrin.Io.JsonIntegers
import Qwen3xOrin.Io.JsonNumbers
import Qwen3xOrin.Io.JsonSound
import Qwen3xOrin.Io.JsonStrings
import Qwen3xOrin.Io.SafetensorsHeader
import Qwen3xOrin.Io.Shards
import Qwen3xOrin.Io.ShardsExact
import Qwen3xOrin.Io.Tensor
import Qwen3xOrin.Library.Admission
import Qwen3xOrin.Library.Arena
import Qwen3xOrin.Library.AsyncCopies
import Qwen3xOrin.Library.BitFields
import Qwen3xOrin.Library.Coupling
import Qwen3xOrin.Library.Cuts
import Qwen3xOrin.Library.Fragments
import Qwen3xOrin.Library.Guard
import Qwen3xOrin.Library.HalvingTree
import Qwen3xOrin.Library.Handles
import Qwen3xOrin.Library.LastWrite
import Qwen3xOrin.Library.Loops
import Qwen3xOrin.Library.Merging
import Qwen3xOrin.Library.Ordered
import Qwen3xOrin.Library.Scanning
import Qwen3xOrin.Library.ScheduledRun
import Qwen3xOrin.Library.Search
import Qwen3xOrin.Library.Sha256
import Qwen3xOrin.Library.Speculation
import Qwen3xOrin.Library.Streams
import Qwen3xOrin.Library.Triple
import Qwen3xOrin.Library.Utf8
import Qwen3xOrin.Library.Window
import Qwen3xOrin.Library.Workers
import Qwen3xOrin.Mtp.AttentionGuards
import Qwen3xOrin.Mtp.Device
import Qwen3xOrin.Mtp.DeviceRuns
import Qwen3xOrin.Mtp.DeviceStages
import Qwen3xOrin.Mtp.DraftExact
import Qwen3xOrin.Mtp.DraftProjection
import Qwen3xOrin.Mtp.DraftRing
import Qwen3xOrin.Mtp.DraftTiles
import Qwen3xOrin.Mtp.Guarded
import Qwen3xOrin.Mtp.Live
import Qwen3xOrin.Mtp.Lossless
import Qwen3xOrin.Mtp.Round
import Qwen3xOrin.Mtp.Service
import Qwen3xOrin.Mtp.Speculative
import Qwen3xOrin.Mtp.Transaction
import Qwen3xOrin.Mtp.VerifyAttention
import Qwen3xOrin.Mtp.VerifyRows
import Qwen3xOrin.Mtp.WholeGeneration
import Qwen3xOrin.Packed.Address
import Qwen3xOrin.Packed.Asset
import Qwen3xOrin.Packed.Bijection
import Qwen3xOrin.Packed.Layout
import Qwen3xOrin.Packed.LocalMaps
import Qwen3xOrin.Packed.Lossless
import Qwen3xOrin.Packed.Manifest
import Qwen3xOrin.Packed.Scales
import Qwen3xOrin.Packed.Sources
import Qwen3xOrin.Packed.Stored
import Qwen3xOrin.Packed.Transform
import Qwen3xOrin.Packed.TransformExact
import Qwen3xOrin.Packed.Weights
import Qwen3xOrin.Prefill.ArithmeticSpans
import Qwen3xOrin.Prefill.Commit
import Qwen3xOrin.Prefill.Geometry
import Qwen3xOrin.Prefill.Partition
import Qwen3xOrin.Prefill.PlanBuilder
import Qwen3xOrin.Prefill.PlanTypes
import Qwen3xOrin.Prefill.PlanValidity
import Qwen3xOrin.Prefill.Progress
import Qwen3xOrin.Prefill.Runs
import Qwen3xOrin.Prefill.Schedule
import Qwen3xOrin.Prefill.Topology
import Qwen3xOrin.Prefill.Transitions
import Qwen3xOrin.Request.ArenaLayout
import Qwen3xOrin.Request.DecodeLayout
import Qwen3xOrin.Request.LayerMajorBuild
import Qwen3xOrin.Request.LayerMajorExact
import Qwen3xOrin.Request.LayerMajorPlan
import Qwen3xOrin.Request.LayerMajorShape
import Qwen3xOrin.Request.LayerMajorViews
import Qwen3xOrin.Request.MemoryPlan
import Qwen3xOrin.Request.ModelConfig
import Qwen3xOrin.Request.PlanShape
import Qwen3xOrin.Request.Region
import Qwen3xOrin.Request.Reset
import Qwen3xOrin.Request.WholeCoreBuild
import Qwen3xOrin.Request.WorkspaceExact
import Qwen3xOrin.Request.WorkspacePlanner
import Qwen3xOrin.Request.WorkspaceTypes
import Qwen3xOrin.Request.WorkspaceValidity
import Qwen3xOrin.Resident.Load
import Qwen3xOrin.Resident.LoadExact
import Qwen3xOrin.Resident.Plan
import Qwen3xOrin.Resident.PlanConditions
import Qwen3xOrin.Resident.PlanExact
import Qwen3xOrin.Resident.PlanLayout
import Qwen3xOrin.Resident.Scatter
import Qwen3xOrin.Resident.WholeLoad
import Qwen3xOrin.Resident.Workers
import Qwen3xOrin.Runner.DecodeGraphs
import Qwen3xOrin.Runner.GraphCache
import Qwen3xOrin.Runner.GraphCapture
import Qwen3xOrin.Runner.GraphIsolation
import Qwen3xOrin.Runner.GraphOwnership
import Qwen3xOrin.Runner.Isolation
import Qwen3xOrin.Runner.LogitsAnalysis
import Qwen3xOrin.Runner.Operations
import Qwen3xOrin.Runner.RequestIsolation
import Qwen3xOrin.Runner.RouteAccounting
import Qwen3xOrin.Runner.RouteEvidence
import Qwen3xOrin.Runner.RouteReduction
import Qwen3xOrin.Runner.StageAborts
import Qwen3xOrin.Runner.StageMachine
import Qwen3xOrin.Runner.State
import Qwen3xOrin.Runner.Steps
import Qwen3xOrin.Runner.SubmissionCall
import Qwen3xOrin.Runner.SubmissionRun
import Qwen3xOrin.Runner.SubmissionWindow
import Qwen3xOrin.Runner.WholeRequestPrefill
import Qwen3xOrin.Server.ApiKey
import Qwen3xOrin.Server.Authorization
import Qwen3xOrin.Server.ChatMessages
import Qwen3xOrin.Server.Connection
import Qwen3xOrin.Server.GatewayObserver
import Qwen3xOrin.Server.HttpRequest
import Qwen3xOrin.Server.HttpSegments
import Qwen3xOrin.Server.InferenceJob
import Qwen3xOrin.Server.JobProtocol
import Qwen3xOrin.Server.OpenAiProtocol
import Qwen3xOrin.Server.OpenAiRequests
import Qwen3xOrin.Server.OpenAiRoundTrip
import Qwen3xOrin.Server.RequestCapacity
import Qwen3xOrin.Server.SseEvents
import Qwen3xOrin.Server.Streaming
import Qwen3xOrin.Server.Utf8Output
import Qwen3xOrin.Text.AddedTokens
import Qwen3xOrin.Text.Bpe
import Qwen3xOrin.Text.BpeExact
import Qwen3xOrin.Text.Chat
import Qwen3xOrin.Text.ChatGrammar
import Qwen3xOrin.Text.Decode
import Qwen3xOrin.Text.DecodeLimit
import Qwen3xOrin.Text.Encode
import Qwen3xOrin.Text.EncodeCuts
import Qwen3xOrin.Text.Loader
import Qwen3xOrin.Text.RoundTrip
import Qwen3xOrin.Text.Trim
import Qwen3xOrin.Text.Validate
import Qwen3xOrin.Weights.Attach
import Qwen3xOrin.Weights.AttachExact
import Qwen3xOrin.Weights.AttachInventory
import Qwen3xOrin.Weights.Binding
import Qwen3xOrin.Weights.Exclusive
import Qwen3xOrin.Weights.InventoryExact
import Qwen3xOrin.Weights.PackedExact
import Qwen3xOrin.Weights.Sidecars
import Qwen3xOrin.Weights.Update
