import MultiResource.Models.Plugin.Filter

/-!
# The plugin's weighted-usage score

Each dimension's post-placement usage is clamped to `[0, 1]`, blended into a spread or
pack score according to `alpha`, and weighted; the sum is scaled to `maxScore`. The
scores of one cycle are then rescaled by `NormalizeScore` in Go's `int64` arithmetic.
-/

namespace MultiResource.Plugin

/-- `resourceToScore(usage, weight)`: the two branches of the blend. -/
def resourceToScore (alpha usage weight : ℚ) : ℚ :=
  let spreadingScore := 1.0 - usage
  let packingScore := usage
  (if alpha < 0.5 then spreadingScore * (1 - alpha * 2) + packingScore * (alpha * 2)
    else spreadingScore * (2.0 - alpha * 2) + packingScore * ((alpha - 0.5) * 2)) * weight

/-- `math.Max(0.0, math.Min(1.0, x))`. -/
def clampUnit (x : ℚ) : ℚ := max 0 (min 1 x)

/-- The clamped usage of CPU or memory, whose division is unguarded. Over a zero total the
quotient is `+Inf` or `-Inf` by the numerator's sign, which the clamp takes to 1 or 0. A zero
numerator gives NaN, which the clamp passes on and whose `int` conversion in the score is
implementation-defined: the model takes the usage as 0 there. -/
def clampUsage (num total : ℚ) : ℚ :=
  if total = 0 then (if 0 < num then 1 else 0) else clampUnit (num / total)

/-- The usage of a disk or network dimension: zero unless its total is positive. -/
def ioUsage (total free req : ℚ) : ℚ := if total > 0 then (total - free + req) / total else 0

/-- `scoreMultiResource(podReq, nodeStats)`. -/
def scoreMultiResource (p : Config) (podReq : PodRequest) (nodeStats : NodeStats) : ℤ :=
  let cpuUsage :=
    clampUsage (nodeStats.cpuTotal - nodeStats.cpuFree + podReq.cpu) nodeStats.cpuTotal
  let memUsage :=
    clampUsage (nodeStats.memTotal - nodeStats.memFree + podReq.mem) nodeStats.memTotal
  let diskReadUsage := clampUnit
    (ioUsage nodeStats.diskReadTotal nodeStats.diskReadFree podReq.diskRead)
  let diskWriteUsage := clampUnit
    (ioUsage nodeStats.diskWriteTotal nodeStats.diskWriteFree podReq.diskWrite)
  let netUpUsage := clampUnit (ioUsage nodeStats.netUpTotal nodeStats.netUpFree podReq.netUp)
  let netDownUsage := clampUnit
    (ioUsage nodeStats.netDownTotal nodeStats.netDownFree podReq.netDown)
  let totalScore := resourceToScore p.alpha cpuUsage 0.4 + resourceToScore p.alpha memUsage 0.3 +
    resourceToScore p.alpha diskReadUsage 0.075 + resourceToScore p.alpha diskWriteUsage 0.075 +
    resourceToScore p.alpha netUpUsage 0.075 + resourceToScore p.alpha netDownUsage 0.075
  let finalScore := truncToInt (totalScore * p.maxScore)
  if finalScore > p.maxScore then p.maxScore else finalScore

/-- `Score(pod, nodeName)`: the score, or the error status when the stats cannot be had. -/
def score (p : Config) (promClient : Option QueryFn) (pod : Pod) (nodeName : String)
    (cache : GoMap NodeStats) : Except Status ℤ × GoMap NodeStats :=
  match statsOrRefresh promClient nodeName cache with
  | (.error _, c) => (.error (.error ("Failed to get node " ++ nodeName ++ " stats")), c)
  | (.ok s, c) => (.ok (scoreMultiResource p (extractPodRequirements pod) s), c)

/-- One turn of `NormalizeScore`'s first loop on the running `(highest, lowest)`. -/
def boundsStep (hl : ℤ × ℤ) (s : ℤ) : ℤ × ℤ :=
  (if s > hl.1 then s else hl.1, if s < hl.2 then s else hl.2)

/-- The first loop of `NormalizeScore`: the running highest and lowest scores, seeded with
`0` and `maxScore`. -/
def scoreBounds (maxScore : ℤ) (scores : List ℤ) : ℤ × ℤ :=
  scores.foldl boundsStep (0, maxScore)

/-- `NormalizeScore(scores)` on the scores' values, in `int64` arithmetic. -/
def normalizeScore (maxScore : ℤ) (scores : List ℤ) : List ℤ :=
  let highest := (scoreBounds maxScore scores).1
  let lowest := (scoreBounds maxScore scores).2
  if highest = lowest then scores
  else scores.map fun s =>
    if highest ≠ lowest then
      wrap64 (Int.tdiv (wrap64 (wrap64 (s - lowest) * maxScore)) (wrap64 (highest - lowest)))
    else maxScore.tdiv 2

end MultiResource.Plugin
