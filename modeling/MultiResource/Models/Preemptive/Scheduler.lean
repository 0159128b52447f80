import Mathlib.Data.List.Sort
import MultiResource.Models.Shared

/-!
# The preemptive scheduler's decisions

Admission with a utilisation ceiling, dominant-share scoring and preemption, as the
standalone watch-and-bind scheduler computes them. Preemption reads the node's pod listing
and issues eviction calls through the cluster client; the calls it makes, in order, are part
of its result.
-/

namespace MultiResource.Preemptive

/-- One dimension of `canScheduleMulti`: skipped without demand, otherwise the demand must
fit and the projected utilisation `1 - (free - req) / total` must not exceed `alpha`. With
no capacity (`total = 0`) that utilisation is `-Inf` or NaN in `float64`, and neither
exceeds `alpha`. -/
def admitsResource (free total req alpha : ℚ) : Bool :=
  if req = 0 then true
  else if free < req then false
  else if total ≠ 0 ∧ 1 - (free - req) / total > alpha then false
  else true

/-- `canScheduleMulti(pod, stats, alpha)`. -/
def canScheduleMulti (pod : PodRequest) (stats : NodeStats) (alpha : ℚ) : Bool :=
  Resource.all.all fun r => admitsResource (stats.free r) (stats.total r) (pod.demand r) alpha

/-- `scoreMultiResource(pod, stats, maxScore)`: the midpoint when no dimension has demand,
otherwise `maxScore * (1 - dominantShare)` clamped at zero. An infinite dominant share gives
`maxScore - maxScore * +Inf`, clamped to zero for a positive `maxScore`; for `maxScore ≤ 0`
Go's `int` of the NaN or `+Inf` it gives is implementation-defined, and the model takes zero
there too. -/
def scoreMultiResource (pod : PodRequest) (stats : NodeStats) (maxScore : ℤ) : ℤ :=
  if infiniteShare pod stats then 0
  else
    let ds := dominantShare pod stats
    if ds = 0 then maxScore.tdiv 2
    else
      let score : ℚ := maxScore - maxScore * ds
      truncToInt (if score < 0 then 0 else score)

/-- `extractPodRequirements`: container requests, the pod's priority, and no I/O demand. -/
def extractPodRequirements (pod : Pod) : PodRequest where
  cpu := pod.cpuCores
  mem := pod.memRequest
  diskRead := 0
  diskWrite := 0
  netUp := 0
  netDown := 0
  priority := pod.priority.getD 0

/-! ## Preemption -/

/-- The cluster API as preemption uses it. -/
structure Client where
  /-- `Pods("").List` with the field selector `spec.nodeName=<node>`. -/
  listPods : String → Except String (List Pod)
  /-- The outcome of the `k`-th eviction call. -/
  evictOutcome : ℕ → Except String Unit

/-- `sort.Slice(candidates, less)` with `less` comparing priorities: some permutation of
its input in ascending priority. The library fixes no order among equal priorities. -/
structure PrioritySort where
  sort : List RunningPod → List RunningPod
  perm : ∀ l, (sort l).Perm l
  sorted : ∀ l, (sort l).Sorted fun a b => a.priority ≤ b.priority

/-- The `RunningPod` built for a listed pod. -/
def runningPodOf (pod : Pod) : RunningPod where
  name := pod.name
  podNamespace := pod.podNamespace
  cpuRequest := pod.cpuCores
  memRequest := pod.memRequest
  priority := pod.priority.getD 0

/-- `getRunningPods`: the listed pods in phase `Running`, in listing order. -/
def getRunningPods (podList : Except String (List Pod)) : Except String (List RunningPod) :=
  match podList with
  | .error e => .error ("failed to list pods: " ++ e)
  | .ok items => .ok ((items.filter fun p => p.phase = .running).map runningPodOf)

/-- The candidates of preemption: the running pods of lower priority than the demand. -/
def lowerPriority (pod : PodRequest) (runningPods : List RunningPod) : List RunningPod :=
  runningPods.filter fun rp => rp.priority < pod.priority

/-- The accumulation loop over the sorted candidates. `freedCpu` and `freedMem` sum the
victims' requests; the first time the node would then fit CPU and memory, the victims so
far are the set to evict. -/
def accumulateVictims (stats : NodeStats) (pod : PodRequest) :
    ℚ → ℚ → List RunningPod → List RunningPod → Option (List RunningPod)
  | _, _, _, [] => none
  | freedCpu, freedMem, victims, c :: cs =>
    let freedCpu := freedCpu + c.cpuRequest
    let freedMem := freedMem + c.memRequest
    if pod.cpu ≤ stats.cpuFree + freedCpu ∧ pod.mem ≤ stats.memFree + freedMem then
      some (victims ++ [c])
    else accumulateVictims stats pod freedCpu freedMem (victims ++ [c]) cs

/-- The eviction loop, the `k`-th call first: it stops at the first failed call. Returns
whether every call succeeded and the calls made. -/
def evictVictims (outcome : ℕ → Except String Unit) (k : ℕ) :
    List RunningPod → Bool × List RunningPod
  | [] => (true, [])
  | v :: vs =>
    match outcome k with
    | .error _ => (false, [v])
    | .ok () =>
      let rest := evictVictims outcome (k + 1) vs
      (rest.1, v :: rest.2)

/-- `attemptPreemptionMulti(client, pod, nodeName, stats)`: the boolean it returns and the
eviction calls it issues. -/
def attemptPreemptionMulti (srt : PrioritySort) (client : Client) (pod : PodRequest)
    (nodeName : String) (stats : NodeStats) : Bool × List RunningPod :=
  match getRunningPods (client.listPods nodeName) with
  | .error _ => (false, [])
  | .ok runningPods =>
    let candidates := lowerPriority pod runningPods
    if candidates.isEmpty then (false, [])
    else
      match accumulateVictims stats pod 0 0 [] (srt.sort candidates) with
      | none => (false, [])
      | some victims => evictVictims client.evictOutcome 0 victims

end MultiResource.Preemptive

namespace MultiResource.DirectConfig

/-- `scoreMultiResource` of the scheduler in `k3s-direct-config.yaml`: the preemptive
scheduler's scorer without its midpoint for a demand with no nonzero dimension, an infinite
dominant share scoring zero. -/
def scoreMultiResource (pod : PodRequest) (stats : NodeStats) (maxScore : ℤ) : ℤ :=
  if infiniteShare pod stats then 0
  else
    let score : ℚ := maxScore - maxScore * dominantShare pod stats
    truncToInt (if score < 0 then 0 else score)

end MultiResource.DirectConfig
