import MultiResource.Models.Extender.Metrics

/-!
# The extender's requirements, admission and score

Requirement extraction reads the I/O annotations and then raises them by image name and by
CPU and memory tiers; admission is the hard check `demand ≤ free` in every dimension, and
the score is `maxScore * (1 - dominantShare)` clamped at zero.
-/

namespace MultiResource.Extender

/-- The package's `max(a, b float64)`. -/
def floatMax (a b : ℚ) : ℚ := if a > b then a else b

/-- The floors an image raises: database images raise disk, web images raise network. -/
def imageFloors (io : ℚ × ℚ × ℚ × ℚ) (container : Container) : ℚ × ℚ × ℚ × ℚ :=
  let (diskRead, diskWrite, netUp, netDown) := io
  let imageLower := toLower container.image
  let (diskRead, diskWrite) :=
    if contains imageLower "mysql" || contains imageLower "postgres" ||
        contains imageLower "mongo" || contains imageLower "redis" then
      (floatMax diskRead (50 * 1024 * 1024), floatMax diskWrite (20 * 1024 * 1024))
    else (diskRead, diskWrite)
  let (netUp, netDown) :=
    if contains imageLower "nginx" || contains imageLower "apache" ||
        contains imageLower "node" || contains imageLower "tomcat" then
      (floatMax netUp (20 * 1024 * 1024), floatMax netDown (40 * 1024 * 1024))
    else (netUp, netDown)
  (diskRead, diskWrite, netUp, netDown)

/-- `estimateIORequirements(pod)`: annotations or defaults, then image floors, then CPU and
memory tier floors. -/
def estimateIORequirements (pod : Pod) : ℚ × ℚ × ℚ × ℚ :=
  let diskRead := parseResourceAnnotation pod "scheduler.extender/disk-read" (10 * 1024 * 1024)
  let diskWrite := parseResourceAnnotation pod "scheduler.extender/disk-write" (5 * 1024 * 1024)
  let netUp := parseResourceAnnotation pod "scheduler.extender/net-up" (1 * 1024 * 1024)
  let netDown := parseResourceAnnotation pod "scheduler.extender/net-down" (2 * 1024 * 1024)
  let (diskRead, diskWrite, netUp, netDown) :=
    pod.containers.foldl imageFloors (diskRead, diskWrite, netUp, netDown)
  let totalCPU := pod.cpuCores
  let totalMem := pod.memRequest
  let (diskRead, diskWrite) :=
    if totalCPU ≥ 4.0 then
      (floatMax diskRead (100 * 1024 * 1024), floatMax diskWrite (50 * 1024 * 1024))
    else if totalCPU ≥ 2.0 then
      (floatMax diskRead (50 * 1024 * 1024), floatMax diskWrite (25 * 1024 * 1024))
    else (diskRead, diskWrite)
  let (netUp, netDown) :=
    if totalMem ≥ 4 * 1024 * 1024 * 1024 then
      (floatMax netUp (50 * 1024 * 1024), floatMax netDown (100 * 1024 * 1024))
    else if totalMem ≥ 1 * 1024 * 1024 * 1024 then
      (floatMax netUp (20 * 1024 * 1024), floatMax netDown (40 * 1024 * 1024))
    else (netUp, netDown)
  (diskRead, diskWrite, netUp, netDown)

/-- `ExtractPodRequirements(pod)`. -/
def extractPodRequirements (pod : Pod) : PodRequest :=
  let (diskRead, diskWrite, netUp, netDown) := estimateIORequirements pod
  { cpu := pod.cpuCores, mem := pod.memRequest, diskRead, diskWrite, netUp, netDown
    priority := pod.priority.getD 0 }

/-- `CanScheduleMulti(podReq, stats, alpha)`: the hard checks only; `alpha` is unused. -/
def canScheduleMulti (podReq : PodRequest) (stats : NodeStats) (_alpha : ℚ) : Bool :=
  if podReq.cpu > stats.cpuFree ∨ podReq.mem > stats.memFree then false
  else if podReq.diskRead > stats.diskReadFree ∨ podReq.diskWrite > stats.diskWriteFree then false
  else if podReq.netUp > stats.netUpFree ∨ podReq.netDown > stats.netDownFree then false
  else true

/-- `ScoreMultiResource(podReq, stats, maxScore)`. An infinite dominant share gives
`maxScore - maxScore * +Inf`, clamped to zero for a positive `maxScore`; for `maxScore ≤ 0`
Go's `int` of the NaN or `+Inf` it gives is implementation-defined, and the model takes zero
there too. -/
def scoreMultiResource (podReq : PodRequest) (stats : NodeStats) (maxScore : ℤ) : ℤ :=
  if infiniteShare podReq stats then 0
  else
    let score : ℚ := maxScore - maxScore * dominantShare podReq stats
    truncToInt (if score < 0 then 0 else score)

end MultiResource.Extender
