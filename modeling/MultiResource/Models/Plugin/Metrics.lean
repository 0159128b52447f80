import MultiResource.Models.Shared

/-!
# The plugin's metrics

`PrometheusClient.Query` files each sample of an instant vector under its `node` label, or
under its `instance` label without the port, and `getNodeStats` reads one sample per query
by the node's name. Each query selects the node's series by `instance=~"<node>.*"`; the
disk and network capacities are estimated from the observed rate.
-/

namespace MultiResource.Plugin

/-- `lastIndex(s, sep)` scanning down from position `i`. -/
def lastIndexFrom {α : Type} [DecidableEq α] (s sep : List α) : ℕ → ℤ
  | 0 => if (s.drop 0).take sep.length = sep then 0 else -1
  | i + 1 => if (s.drop (i + 1)).take sep.length = sep then (i + 1 : ℕ) else lastIndexFrom s sep i

/-- `lastIndex(s, sep)`: the loop from `len(s) - len(sep)` down to `0`, or `-1`. -/
def lastIndex {α : Type} [DecidableEq α] (s sep : List α) : ℤ :=
  if sep.length ≤ s.length then lastIndexFrom s sep (s.length - sep.length) else -1

/-- `lastIndex`'s loop from position `i` down to `0` with Go's bounds-checked slices, where a
slice out of range panics. -/
def lastIndexCheckedFrom {α : Type} [DecidableEq α] (s sep : List α) : ℕ → Except String ℤ
  | 0 => do
    let sub ← slice s (0 : ℕ) ((0 : ℕ) + sep.length)
    pure (if sub = sep then 0 else -1)
  | i + 1 => do
    let sub ← slice s (i + 1 : ℕ) ((i + 1 : ℕ) + sep.length)
    if sub = sep then pure (i + 1 : ℕ) else lastIndexCheckedFrom s sep i

/-- `lastIndex(s, sep)` with its index an `int` from `len(s) - len(sep)` down to `0` and its
slices bounds-checked. -/
def lastIndexChecked {α : Type} [DecidableEq α] (s sep : List α) : Except String ℤ :=
  let i : ℤ := s.length - sep.length
  if i ≥ 0 then lastIndexCheckedFrom s sep i.toNat else .ok (-1)

/-- One sample of an instant vector: its label set and its value. -/
structure Sample where
  metric : GoMap String
  value : ℚ

/-- What the Prometheus API answers a query with. -/
inductive QueryResult
  | vector (samples : List Sample)
  | other (typeName : String)

/-- The key a sample is filed under: its `node` label, else its `instance` label with the
port removed. A sample with neither label is filed under the empty name. -/
def sampleNodeName (metric : GoMap String) : String :=
  match metric.lookup "node" with
  | some node => node
  | none =>
    let nodeName := (metric.lookup "instance").getD ""
    let idx := lastIndex nodeName.data ":".data
    if idx ≠ -1 then ⟨nodeName.data.take idx.toNat⟩ else nodeName

/-- The result map of an instant vector: a later sample overwrites an earlier one. -/
def resultMap (samples : List Sample) : GoMap ℚ :=
  samples.foldl (fun m s => m.insert (sampleNodeName s.metric) s.value) GoMap.empty

/-- The base URL `NewPrometheusClient(url)` gives the API client: `PROMETHEUS_URL` when it is
set, cut before any `/api/v1/query`. -/
def prometheusBaseURL (url envURL : String) : String :=
  let url := if envURL ≠ "" then envURL else url
  if contains url "/api/v1/query" then ⟨splitFirst "/api/v1/query".data url.data⟩ else url

/-- `PrometheusClient.Query` over the API's answers. -/
def PrometheusClient.query (api : Option (String → Except String QueryResult)) : QueryFn :=
  fun q =>
    match api with
    | none => .error "prometheus API client not initialized"
    | some api =>
      match api q with
      | .error e => .error e
      | .ok (.vector samples) => .ok (resultMap samples)
      | .ok (.other t) => .error ("unsupported result type: " ++ t)

/-- The label matcher `instance=~"<node>.*"`. -/
def instanceSelector (nodeName : String) : String :=
  "\x7binstance=~\"" ++ nodeName ++ ".*\"\x7d"

/-- The CPU count query. -/
def cpuQuery (nodeName : String) : String :=
  "count(node_cpu_seconds_total\x7bmode=\"idle\",instance=~\"" ++ nodeName ++ ".*\"\x7d)"

/-- The CPU usage query. -/
def cpuUsageQuery (nodeName : String) : String :=
  "1 - avg(rate(node_cpu_seconds_total\x7bmode=\"idle\",instance=~\"" ++ nodeName ++
    ".*\"\x7d[5m]))"

/-- The memory total query. -/
def memTotalQuery (nodeName : String) : String :=
  "node_memory_MemTotal_bytes" ++ instanceSelector nodeName

/-- The available memory query. -/
def memAvailableQuery (nodeName : String) : String :=
  "node_memory_MemAvailable_bytes" ++ instanceSelector nodeName

/-- A 5-minute rate query summed over the node's series. -/
def rateQuery (metric nodeName : String) : String :=
  "sum(rate(" ++ metric ++ instanceSelector nodeName ++ "[5m]))"

/-- One disk or network section: a found rate is taken as 80% of the capacity; a missing
one gives the default total with 20% free; an error leaves both fields zero. -/
def rateStats (result : Except String (GoMap ℚ)) (nodeName : String) (defaultTotal : ℚ) :
    ℚ × ℚ :=
  match result with
  | .error _ => (0, 0)
  | .ok m =>
    match m.lookup nodeName with
    | some value => (value / 0.8, value / 0.8 - value)
    | none => (defaultTotal, defaultTotal * 0.2)

/-- The CPU section's total: the node's core count, `1.0` when it is absent and `0` when the
query fails. -/
def cpuTotalOf (result : Except String (GoMap ℚ)) (nodeName : String) : ℚ :=
  match result with
  | .error _ => 0
  | .ok m => (m.lookup nodeName).getD 1.0

/-- The CPU section's free cores: the total times one minus the usage ratio capped at `1.0`,
and a fifth of the total when the usage fails or is absent. -/
def cpuFreeOf (result : Except String (GoMap ℚ)) (nodeName : String) (cpuTotal : ℚ) : ℚ :=
  match result with
  | .error _ => cpuTotal * 0.2
  | .ok m =>
    match m.lookup nodeName with
    | some value => cpuTotal * (1.0 - if value > 1.0 then 1.0 else value)
    | none => cpuTotal * 0.2

/-- The memory section's total: the node's sample, `4GiB` when it is absent and `0` when the
query fails. -/
def memTotalOf (result : Except String (GoMap ℚ)) (nodeName : String) : ℚ :=
  match result with
  | .error _ => 0
  | .ok m => (m.lookup nodeName).getD (4 * 1024 * 1024 * 1024)

/-- The memory section's free bytes: the node's available sample, a fifth of the total when
it fails or is absent. -/
def memFreeOf (result : Except String (GoMap ℚ)) (nodeName : String) (memTotal : ℚ) : ℚ :=
  match result with
  | .error _ => memTotal * 0.2
  | .ok m => (m.lookup nodeName).getD (memTotal * 0.2)

/-- `getNodeStats(nodeName)` of the plugin. -/
def getNodeStats (promClient : Option QueryFn) (nodeName : String) : Except String NodeStats :=
  match promClient with
  | none => .error "prometheus client not initialized"
  | some query =>
    let cpuTotal := cpuTotalOf (query (cpuQuery nodeName)) nodeName
    let cpuFree := cpuFreeOf (query (cpuUsageQuery nodeName)) nodeName cpuTotal
    let memTotal := memTotalOf (query (memTotalQuery nodeName)) nodeName
    let memFree := memFreeOf (query (memAvailableQuery nodeName)) nodeName memTotal
    let diskRead := rateStats (query (rateQuery "node_disk_read_bytes_total" nodeName)) nodeName
      (100 * 1024 * 1024)
    let diskWrite := rateStats (query (rateQuery "node_disk_written_bytes_total" nodeName))
      nodeName (50 * 1024 * 1024)
    let netUp := rateStats (query (rateQuery "node_network_transmit_bytes_total" nodeName))
      nodeName (125 * 1024 * 1024)
    let netDown := rateStats (query (rateQuery "node_network_receive_bytes_total" nodeName))
      nodeName (125 * 1024 * 1024)
    .ok { cpuTotal, cpuFree, memTotal, memFree
          diskReadTotal := diskRead.1, diskReadFree := diskRead.2
          diskWriteTotal := diskWrite.1, diskWriteFree := diskWrite.2
          netUpTotal := netUp.1, netUpFree := netUp.2
          netDownTotal := netDown.1, netDownFree := netDown.2 }

end MultiResource.Plugin
