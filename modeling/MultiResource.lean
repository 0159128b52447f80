import MultiResource.Core.Go
import MultiResource.Core.Strconv
import MultiResource.Core.Types
import MultiResource.Models.Shared
import MultiResource.Models.Preemptive.Metrics
import MultiResource.Models.Preemptive.Scheduler
import MultiResource.Models.Preemptive.Watch
import MultiResource.Models.Plugin.Metrics
import MultiResource.Models.Plugin.Filter
import MultiResource.Models.Plugin.Score
import MultiResource.Models.Extender.Metrics
import MultiResource.Models.Extender.Resources
import MultiResource.Models.Extender.Extender
import MultiResource.Models.Cache
import MultiResource.Correctness.Admission
import MultiResource.Correctness.Preemption
import MultiResource.Correctness.Placement
import MultiResource.Correctness.WeightedScore
import MultiResource.Correctness.Normalize
import MultiResource.Correctness.StatsBounds
import MultiResource.Correctness.QueryOutcomes
import MultiResource.Correctness.CacheMiss
import MultiResource.Correctness.CacheRuns
import MultiResource.Correctness.Interleaving
import MultiResource.Correctness.Extraction
import MultiResource.Correctness.LastIndex
import MultiResource.Correctness.DominantShare
import MultiResource.Correctness.LoadMonotonicity
