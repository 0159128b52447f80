import MultiResource.Models.Shared

/-!
# The extender's metrics

`QueryPrometheus` files each sample under its `instance` label, and `GetNodeStats` reads
cluster-wide queries: CPU and memory through the instance lookup, disk and network by
summing the rates of the matching instances. A nonzero rate estimates the capacity at three
(disk) or five (network) times the rate; every section falls back to fixed defaults.
-/

namespace MultiResource.Extender

/-- One sample of an instant vector: its label set and its value. -/
structure Sample where
  metric : GoMap String
  value : ℚ

/-- `QueryPrometheus` over a decoded answer: samples without an `instance` label are
skipped, and a later sample of an instance overwrites an earlier one. -/
def queryPrometheus (source : String → Except String (List Sample)) : QueryFn := fun q =>
  (source q).map fun samples =>
    samples.foldl (fun m s =>
      match s.metric.lookup "instance" with
      | some inst => m.insert inst s.value
      | none => m) GoMap.empty

/-- The CPU usage query, which the updater also uses to discover nodes. -/
def cpuQuery : String := "sum(rate(node_cpu_seconds_total\x7bmode!=\"idle\"\x7d[5m])) by (instance)"

/-- The sum of the rates of every instance that matches the node. -/
def matchedRate (m : GoMap ℚ) (nodeName : String) : ℚ :=
  ((m.entries.filter fun e => instanceMatches nodeName e.1).map Prod.snd).sum

/-- One disk or network section: the node's summed rate, or when that is zero the first
sample visited, estimates a capacity of `factor` times the rate with the rate itself in use;
a zero rate or an error gives the defaults. -/
def rateCapacity (result : Except String (GoMap ℚ)) (nodeName : String)
    (factor defaultTotal defaultFree : ℚ) : ℚ × ℚ :=
  match result with
  | .error _ => (defaultTotal, defaultFree)
  | .ok m =>
    let rate := matchedRate m nodeName
    let rate := if rate = 0 then (m.entries.head?.map Prod.snd).getD 0 else rate
    if rate = 0 then (defaultTotal, defaultFree)
    else
      let free := factor * rate - rate
      (factor * rate, if free < 0 then 0 else free)

/-- The CPU section: six cores, with six minus the node's usage free (clamped at zero); an
error or no matching sample gives two cores free. -/
def cpuStats (result : Except String (GoMap ℚ)) (nodeName : String) : ℚ × ℚ :=
  match result with
  | .error _ => (6.0, 2.0)
  | .ok m =>
    match matchInstance m nodeName with
    | none => (6.0, 2.0)
    | some cpuUsage => (6.0, if 6.0 - cpuUsage < 0 then 0 else 6.0 - cpuUsage)

/-- A memory section: the node's matched sample, or the default on an error or no match. -/
def memoryOr (result : Except String (GoMap ℚ)) (nodeName : String) (default : ℚ) : ℚ :=
  match result with
  | .error _ => default
  | .ok m => (matchInstance m nodeName).getD default

/-- `GetNodeStats(nodeName)` of the extender; it never reports an error. -/
def getNodeStats (query : QueryFn) (nodeName : String) : NodeStats :=
  let cpu := cpuStats (query cpuQuery) nodeName
  let memTotal := memoryOr (query "node_memory_MemTotal_bytes") nodeName (32 * 1024 * 1024 * 1024)
  let memFree := memoryOr (query "node_memory_MemAvailable_bytes") nodeName
    (16 * 1024 * 1024 * 1024)
  let diskRead := rateCapacity (query "rate(node_disk_read_bytes_total[5m])") nodeName 3
    (500 * 1024 * 1024) (300 * 1024 * 1024)
  let diskWrite := rateCapacity (query "rate(node_disk_written_bytes_total[5m])") nodeName 3
    (200 * 1024 * 1024) (100 * 1024 * 1024)
  let netUp := rateCapacity (query "rate(node_network_transmit_bytes_total[5m])") nodeName 5
    (100 * 1024 * 1024) (80 * 1024 * 1024)
  let netDown := rateCapacity (query "rate(node_network_receive_bytes_total[5m])") nodeName 5
    (200 * 1024 * 1024) (150 * 1024 * 1024)
  { cpuTotal := cpu.1, cpuFree := cpu.2, memTotal, memFree
    diskReadTotal := diskRead.1, diskReadFree := diskRead.2
    diskWriteTotal := diskWrite.1, diskWriteFree := diskWrite.2
    netUpTotal := netUp.1, netUpFree := netUp.2
    netDownTotal := netDown.1, netDownFree := netDown.2 }

end MultiResource.Extender
