import MultiResource.Models.Extender.Resources

/-!
# The extender's endpoints and its node-stats cache

`Filter` and `Prioritize` read node stats only from the cache; the updater fills it from
the nodes the CPU query reports, keyed by the host part of each instance.
-/

namespace MultiResource.Extender

/-- The extender's tunables, read from the environment by `NewMultiResourceExtender`. -/
structure Config where
  alpha : ℚ
  maxScore : ℤ

/-- `ExtenderFilterResult`: the nodes that pass and the reason for each that fails. -/
structure FilterResult where
  nodes : List String
  failedNodes : GoMap String

/-- `getNodeStatsFromCache(nodeName)`. -/
def getNodeStatsFromCache (cache : GoMap NodeStats) (nodeName : String) :
    Except String NodeStats :=
  match cache.lookup nodeName with
  | some stats => .ok stats
  | none => .error ("node stats not available for " ++ nodeName)

/-- One node of `Filter`'s loop. -/
def filterNode (e : Config) (cache : GoMap NodeStats) (pod : Pod) (r : FilterResult)
    (node : String) : FilterResult :=
  match getNodeStatsFromCache cache node with
  | .error err => { r with failedNodes := r.failedNodes.insert node ("error retrieving stats: " ++ err) }
  | .ok stats =>
    if canScheduleMulti (extractPodRequirements pod) stats e.alpha then
      { r with nodes := r.nodes ++ [node] }
    else { r with failedNodes := r.failedNodes.insert node "insufficient resources" }

/-- `Filter(args)`: the candidate nodes, by name, in order. -/
def filter (e : Config) (cache : GoMap NodeStats) (pod : Pod) (nodes : List String) :
    FilterResult :=
  nodes.foldl (filterNode e cache pod) ⟨[], GoMap.empty⟩

/-- `Prioritize(args)`: a score per node, zero when its stats are not cached. -/
def prioritize (e : Config) (cache : GoMap NodeStats) (pod : Pod) (nodes : List String) :
    List (String × ℤ) :=
  nodes.map fun node =>
    match getNodeStatsFromCache cache node with
    | .error _ => (node, 0)
    | .ok stats => (node, scoreMultiResource (extractPodRequirements pod) stats e.maxScore)

/-- `updateAllNodeStats`: for every instance the CPU query reports, store the stats of its
host as `GetNodeStats` reads them; a failed CPU query changes nothing. Every call sees the
metrics of its own moment: `prom 0` answers the CPU query and `prom (i + 1)` the `GetNodeStats`
of the `i`-th instance the loop visits. -/
def updateAllNodeStats (prom : ℕ → QueryFn) (cache : GoMap NodeStats) : GoMap NodeStats :=
  match prom 0 cpuQuery with
  | .error _ => cache
  | .ok cpuMetrics =>
    cpuMetrics.entries.enum.foldl (fun c inst =>
      c.insert (hostPart inst.2.1) (getNodeStats (prom (inst.1 + 1)) (hostPart inst.2.1))) cache

end MultiResource.Extender
