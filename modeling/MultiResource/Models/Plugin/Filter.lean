import MultiResource.Models.Plugin.Metrics

/-!
# The plugin's filter and its node-stats cache

`Filter` and `Score` read a node's stats from the cache and, on a miss, fetch them with
`getNodeStats` and store them; the updater refreshes every listed node on a timer. The
admission test is the hard per-dimension check `demand ≤ free`.
-/

namespace MultiResource.Plugin

/-- The plugin's tunables, `alpha` and `maxScore`. -/
structure Config where
  alpha : ℚ
  maxScore : ℤ

/-- `New`: `alpha = 0.5`, `maxScore = 100`. -/
def new : Config := ⟨0.5, 100⟩

/-- A `framework.Status`, success being the nil status. -/
inductive Status
  | success
  | unschedulable (reason : String)
  | error (reason : String)
  deriving DecidableEq, Repr

/-- `canScheduleMulti(podReq, nodeStats)`: no dimension's demand exceeds its free capacity. -/
def canScheduleMulti (podReq : PodRequest) (nodeStats : NodeStats) : Bool :=
  if podReq.cpu > nodeStats.cpuFree then false
  else if podReq.mem > nodeStats.memFree then false
  else if podReq.diskRead > nodeStats.diskReadFree then false
  else if podReq.diskWrite > nodeStats.diskWriteFree then false
  else if podReq.netUp > nodeStats.netUpFree then false
  else if podReq.netDown > nodeStats.netDownFree then false
  else true

/-- `extractPodRequirements(pod)`: container requests, priority 1, and each I/O demand from
its annotation with a default proportional to the CPU request. -/
def extractPodRequirements (pod : Pod) : PodRequest :=
  let cpu := pod.cpuCores
  { cpu := cpu
    mem := pod.memRequest
    diskRead := parseResourceAnnotation pod "scheduler.extender/disk-read" (cpu * 10 * 1024 * 1024)
    diskWrite := parseResourceAnnotation pod "scheduler.extender/disk-write" (cpu * 5 * 1024 * 1024)
    netUp := parseResourceAnnotation pod "scheduler.extender/net-up" (cpu * 5 * 1024 * 1024)
    netDown := parseResourceAnnotation pod "scheduler.extender/net-down" (cpu * 10 * 1024 * 1024)
    priority := 1 }

/-- The cache read shared by `Filter` and `Score`: the cached stats, or on a miss a
synchronous `getNodeStats` whose result is stored. -/
def statsOrRefresh (promClient : Option QueryFn) (nodeName : String)
    (cache : GoMap NodeStats) : Except String NodeStats × GoMap NodeStats :=
  match cache.lookup nodeName with
  | some s => (.ok s, cache)
  | none =>
    match getNodeStats promClient nodeName with
    | .error e => (.error e, cache)
    | .ok s => (.ok s, cache.insert nodeName s)

/-- `Filter(pod, nodeInfo)`: its status and the cache after it. -/
def filter (promClient : Option QueryFn) (pod : Pod) (nodeName : String)
    (cache : GoMap NodeStats) : Status × GoMap NodeStats :=
  match statsOrRefresh promClient nodeName cache with
  | (.error _, c) => (.unschedulable ("Failed to get node " ++ nodeName ++ " stats"), c)
  | (.ok s, c) =>
    if canScheduleMulti (extractPodRequirements pod) s then (.success, c)
    else (.unschedulable ("Node " ++ nodeName ++ " doesn't have enough resources for pod " ++
      pod.podNamespace ++ "/" ++ pod.name), c)

/-- `updateAllNodeStats`: fetch and store every listed node; a failed fetch is skipped and a
failed listing changes nothing. -/
def updateAllNodeStats (promClient : Option QueryFn) (nodes : Except String (List String))
    (cache : GoMap NodeStats) : GoMap NodeStats :=
  match nodes with
  | .error _ => cache
  | .ok names =>
    names.foldl (fun c nodeName =>
      match getNodeStats promClient nodeName with
      | .ok s => c.insert nodeName s
      | .error _ => c) cache

end MultiResource.Plugin
