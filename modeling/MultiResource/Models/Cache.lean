import MultiResource.Models.Plugin.Score
import MultiResource.Models.Extender.Extender

/-!
# The node-stats caches as state machines

The plugin's cache starts empty and is written by `Filter` and `Score` on a miss and by the
periodic `updateAllNodeStats`. The extender's cache starts empty and is written only by its
periodic `updateAllNodeStats`; its `Filter` and `Prioritize` only read it. Each call sees the
metrics responses of its own moment, and so does each `GetNodeStats` of a refresh. The extender's lock is taken per write and per read, so a
`Filter` may run between two writes of a refresh: `filterDuring` runs one such interleaving.
-/

namespace MultiResource

namespace Plugin

/-- A call that may write the plugin's node-stats cache, with the metrics client as it
answers at that moment. -/
inductive CacheEvent
  | filter (promClient : Option QueryFn) (pod : Pod) (nodeName : String)
  | score (p : Config) (promClient : Option QueryFn) (pod : Pod) (nodeName : String)
  | updateAll (promClient : Option QueryFn) (nodes : Except String (List String))

/-- The metrics client an event queries. -/
def CacheEvent.promClient : CacheEvent → Option QueryFn
  | .filter c _ _ => c
  | .score _ c _ _ => c
  | .updateAll c _ => c

/-- The cache after one event. -/
def CacheEvent.apply : CacheEvent → GoMap NodeStats → GoMap NodeStats
  | .filter c pod nodeName, cache => (Plugin.filter c pod nodeName cache).2
  | .score p c pod nodeName, cache => (Plugin.score p c pod nodeName cache).2
  | .updateAll c nodes, cache => updateAllNodeStats c nodes cache

/-- The cache after a run of events. -/
def runCache (cache : GoMap NodeStats) (events : List CacheEvent) : GoMap NodeStats :=
  events.foldl (fun c ev => ev.apply c) cache

/-- No events leave the cache alone. -/
@[simp] theorem runCache_nil (cache : GoMap NodeStats) : runCache cache [] = cache := rfl

/-- A run applies its first event, then the rest. -/
@[simp] theorem runCache_cons (cache : GoMap NodeStats) (ev : CacheEvent)
    (events : List CacheEvent) : runCache cache (ev :: events) = runCache (ev.apply cache) events :=
  rfl

end Plugin

namespace Extender

/-- The cache after a run of periodic refreshes, each with the metrics responses of its
calls. -/
def runCache (cache : GoMap NodeStats) (refreshes : List (ℕ → QueryFn)) : GoMap NodeStats :=
  refreshes.foldl (fun c prom => updateAllNodeStats prom c) cache

/-- No refreshes leave the cache alone. -/
@[simp] theorem runCache_nil (cache : GoMap NodeStats) : runCache cache [] = cache := rfl

/-- A run applies its first refresh, then the rest. -/
@[simp] theorem runCache_cons (cache : GoMap NodeStats) (prom : ℕ → QueryFn)
    (refreshes : List (ℕ → QueryFn)) :
    runCache cache (prom :: refreshes) = runCache (updateAllNodeStats prom cache) refreshes :=
  rfl

/-- The writes one `updateAllNodeStats` makes, each under the write lock, in the order the loop
visits the reported instances: each instance's host with the stats its `GetNodeStats` read. -/
def refreshWrites (prom : ℕ → QueryFn) : List (String × NodeStats) :=
  match prom 0 cpuQuery with
  | .error _ => []
  | .ok cpuMetrics =>
    cpuMetrics.entries.enum.map fun inst =>
      (hostPart inst.2.1, getNodeStats (prom (inst.1 + 1)) (hostPart inst.2.1))

/-- The cache after a list of writes, in order. -/
def applyWrites (cache : GoMap NodeStats) (ws : List (String × NodeStats)) : GoMap NodeStats :=
  ws.foldl (fun c w => c.insert w.1 w.2) cache

/-- One access to the extender's cache as its `RWMutex` orders them: the updater writing one
host's stats, or a handler reading one candidate's. -/
inductive Access
  | write (host : String) (stats : NodeStats)
  | read (node : String)

/-- The write an access makes, if it is one. -/
def Access.written : Access → Option (String × NodeStats)
  | .write host stats => some (host, stats)
  | .read _ => none

/-- The candidate an access reads, if it is a read. -/
def Access.readNode : Access → Option String
  | .write _ _ => none
  | .read node => some node

/-- `Filter`'s loop interleaved with the updater's writes: each read is one candidate's turn on
the cache as the writes before it have left it. Returns the cache and the result after the
accesses. -/
def filterDuring (e : Config) (pod : Pod) :
    List Access → GoMap NodeStats → FilterResult → GoMap NodeStats × FilterResult
  | [], cache, r => (cache, r)
  | .write host stats :: as, cache, r => filterDuring e pod as (cache.insert host stats) r
  | .read node :: as, cache, r => filterDuring e pod as cache (filterNode e cache pod r node)

end Extender

end MultiResource
