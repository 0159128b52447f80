import MultiResource.Models.Shared

/-!
# The preemptive scheduler's metrics

`queryPrometheus` files each sample under its `instance` label, or under a synthetic
`metric_<n>` name when it has none; `getNodeStats` reads cluster-wide queries through the
instance lookup and computes each free capacity as a total minus an observed usage.
-/

namespace MultiResource.Preemptive

/-- One decoded result entry: its label set and the value string. The model's stats are
exact rationals, so it covers the answers whose values do not spell an infinity or NaN. -/
structure Sample where
  metric : GoMap String
  value : String
  finite : Strconv.special value.data = none

/-- `parseFloat(s)`: `strconv.ParseFloat`, zero when it fails. -/
def parseFloat (s : String) : GoFloat :=
  match Strconv.parseFloat s with
  | .ok v => v
  | .error _ => .finite 0

/-- `queryPrometheus(query)` over the decoded answer: unparsable values read as zero. -/
def queryPrometheus (source : String → Except String (List Sample)) : QueryFn := fun q =>
  (source q).map fun samples =>
    samples.foldl (fun m s =>
      let inst := (s.metric.lookup "instance").getD ""
      let key := if inst = "" then "metric_" ++ toString m.size else inst
      m.insert key (parseFloat s.value).toRat) GoMap.empty

/-- A sample's value is read as a finite float. -/
theorem parseFloat_isFinite (s : Sample) : (parseFloat s.value).isFinite := by
  unfold parseFloat
  split
  · exact Strconv.parseFloat_isFinite s.finite ‹_›
  · rfl

/-- A single-valued section: the matched sample, zero when none matches, `onError` when the
query fails. -/
def sampleOr (result : Except String (GoMap ℚ)) (nodeName : String) (onError : ℚ) : ℚ :=
  match result with
  | .error _ => onError
  | .ok m => (matchInstance m nodeName).getD 0

/-- The memory total read once the used memory is found: the key `nodeName:9100`, else
whichever sample comes first, else zero. -/
def memTotalOf (result : Except String (GoMap ℚ)) (nodeName : String) : ℚ :=
  match result with
  | .error _ => 8 * 1024 * 1024 * 1024
  | .ok m =>
    match m.lookup (nodeName ++ ":9100") with
    | some total => total
    | none => (m.entries.head?.map Prod.snd).getD 0

/-- `getNodeStats(nodeName)` of the preemptive scheduler; it never reports an error. -/
def getNodeStats (query : QueryFn) (nodeName : String) : NodeStats :=
  let cpu : ℚ × ℚ :=
    match query "sum(rate(node_cpu_seconds_total\x7bmode!=\"idle\"\x7d[5m])) by (instance)" with
    | .error _ => (6.0, 2.0)
    | .ok m =>
      match matchInstance m nodeName with
      | none => (6.0, 2.0)
      | some cpuUsage => (6.0, 6.0 - cpuUsage)
  let mem : ℚ × ℚ :=
    match query "node_memory_MemTotal_bytes - node_memory_MemAvailable_bytes" with
    | .error _ => (8 * 1024 * 1024 * 1024, 4 * 1024 * 1024 * 1024)
    | .ok m =>
      match matchInstance m nodeName with
      | none => (8 * 1024 * 1024 * 1024, 4 * 1024 * 1024 * 1024)
      | some memUsed =>
        let memTotal := memTotalOf (query "node_memory_MemTotal_bytes") nodeName
        (memTotal, memTotal - memUsed)
  let diskReadUsage := sampleOr (query "rate(node_disk_read_bytes_total[5m])") nodeName 0
  let diskReadTotal := sampleOr (query "node_disk_read_bytes_max") nodeName 100.0
  let diskWriteUsage := sampleOr (query "rate(node_disk_written_bytes_total[5m])") nodeName 0
  let diskWriteTotal := sampleOr (query "node_disk_write_bytes_max") nodeName 100.0
  let netUpUsage := sampleOr (query "rate(node_network_transmit_bytes_total[5m])") nodeName 0
  let netDownUsage := sampleOr (query "rate(node_network_receive_bytes_total[5m])") nodeName 0
  let netSpeed := sampleOr (query "node_network_speed_bytes") nodeName 1000.0
  { cpuTotal := cpu.1, cpuFree := cpu.2, memTotal := mem.1, memFree := mem.2
    diskReadTotal, diskReadFree := diskReadTotal - diskReadUsage
    diskWriteTotal, diskWriteFree := diskWriteTotal - diskWriteUsage
    netUpTotal := netSpeed, netUpFree := netSpeed - netUpUsage
    netDownTotal := netSpeed, netDownFree := netSpeed - netDownUsage }

end MultiResource.Preemptive
