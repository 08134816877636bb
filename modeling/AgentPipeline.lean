import AgentPipeline.Claims.ClaimIsolation
import AgentPipeline.Claims.ClaimMonotone
import AgentPipeline.Locks.PipelineLockSafety
import AgentPipeline.Locks.LivePlanningSafety
import AgentPipeline.Locks.RunLockSafety
import AgentPipeline.Loop.SucceededProof
import AgentPipeline.Loop.LegacyMigration
import AgentPipeline.Loop.CursorMonotone
import AgentPipeline.Loop.Publication
import AgentPipeline.Loop.AppendLog
import AgentPipeline.Loop.DiscoveryExact
import AgentPipeline.Loop.HistoryChain
import AgentPipeline.Review.LegacyOverrides
import AgentPipeline.Review.CachedVerdict
import AgentPipeline.Integrity.ManifestSound
import AgentPipeline.Integrity.RetryBound
import AgentPipeline.Handoff.Storable
import AgentPipeline.MergeQueue.Safety
import AgentPipeline.Worktree.Porcelain
import AgentPipeline.Lineage.Store
import AgentPipeline.Lineage.Impact
import AgentPipeline.Roadmap.Recovers
import AgentPipeline.Loop.Deadlock
import AgentPipeline.Loop.GrammarExact
import AgentPipeline.Train.Progress
import AgentPipeline.Pin.Target
import AgentPipeline.Roadmap.Depgraph
import AgentPipeline.Loop.Deadlines
import AgentPipeline.Review.PartitionLaws
import AgentPipeline.Review.RecordedFindings
import AgentPipeline.Review.PlanReview
import AgentPipeline.Review.MergedVerdict
import AgentPipeline.Review.Attested
import AgentPipeline.Stage.PersistFailure
import AgentPipeline.Stage.Migration
import AgentPipeline.Release.Diff
import AgentPipeline.Release.Milestone
import AgentPipeline.Surface.GlobExact
import AgentPipeline.Stage.NoRun
import AgentPipeline.MergeQueue.Regate
