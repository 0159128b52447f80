import MultiResource.Models.Preemptive.Metrics
import MultiResource.Models.Plugin.Metrics
import MultiResource.Models.Extender.Metrics

/-!
# How query outcomes reach the node stats

The extender reads every failed query as an empty result, so its stats never tell the two
apart. The plugin and the preemptive scheduler do: a failed query leaves a field at zero or at
an error default where an empty result gives another default. Which samples feed a field
depends on how each client keys its result map: the plugin keys an aggregate's label-less
sample under the empty name, and the extender keys samples by `instance` alone and matches
instances by substring.
-/

namespace MultiResource

/-- A failed query read as an empty result. -/
def emptyOnError (result : Except String (GoMap ℚ)) : Except String (GoMap ℚ) :=
  match result with
  | .ok m => .ok m
  | .error _ => .ok GoMap.empty

namespace Extender

variable (result : Except String (GoMap ℚ)) (nodeName : String)

/-- The CPU reading takes a failed query as an empty result. -/
@[simp] theorem cpuStats_emptyOnError :
    cpuStats (emptyOnError result) nodeName = cpuStats result nodeName := by
  cases result <;> rfl

/-- The memory reading takes a failed query as an empty result. -/
@[simp] theorem memoryOr_emptyOnError (default : ℚ) :
    memoryOr (emptyOnError result) nodeName default = memoryOr result nodeName default := by
  cases result <;> rfl

/-- The rate reading takes a failed query as an empty result. -/
@[simp] theorem rateCapacity_emptyOnError (factor defaultTotal defaultFree : ℚ) :
    rateCapacity (emptyOnError result) nodeName factor defaultTotal defaultFree =
      rateCapacity result nodeName factor defaultTotal defaultFree := by
  cases result
  · simp [emptyOnError, rateCapacity, matchedRate]
  · rfl

/-- `GetNodeStats` reads every failed query as an empty result. -/
theorem getNodeStats_emptyOnError (query : QueryFn) :
    getNodeStats (fun q => emptyOnError (query q)) nodeName = getNodeStats query nodeName := by
  simp only [getNodeStats, cpuStats_emptyOnError, memoryOr_emptyOnError,
    rateCapacity_emptyOnError]

end Extender

/-- The plugin and the preemptive scheduler tell a failed query from an empty result: for
every node and whatever the other queries answer, the plugin's CPU total is `0` after a
failed CPU count query and `1.0` after an empty one, and the preemptive scheduler's disk-read
total is `100` after a failed maximum query and `0` after an empty one. -/
theorem error_and_empty_differ (query : QueryFn) (nodeName e : String) :
    (Plugin.getNodeStats (some (Function.update query (Plugin.cpuQuery nodeName) (.error e)))
      nodeName).map NodeStats.cpuTotal = .ok 0 ∧
    (Plugin.getNodeStats (some (Function.update query (Plugin.cpuQuery nodeName)
      (.ok GoMap.empty))) nodeName).map NodeStats.cpuTotal = .ok 1 ∧
    (Preemptive.getNodeStats (Function.update query "node_disk_read_bytes_max" (.error e))
      nodeName).diskReadTotal = 100 ∧
    (Preemptive.getNodeStats (Function.update query "node_disk_read_bytes_max" (.ok GoMap.empty))
      nodeName).diskReadTotal = 0 := by
  refine ⟨?_, ?_, ?_, ?_⟩ <;>
    simp [Plugin.getNodeStats, Plugin.cpuTotalOf, Preemptive.getNodeStats, Preemptive.sampleOr,
      Except.map] <;> norm_num

namespace Plugin

/-- A sample with no labels is filed under the empty name. -/
@[simp] theorem sampleNodeName_empty : sampleNodeName GoMap.empty = "" := rfl

/-- The result map of label-less samples has nothing under a non-empty node name. -/
theorem resultMap_lookup_of_unlabelled {samples : List Sample}
    (hs : ∀ s ∈ samples, s.metric = GoMap.empty) {nodeName : String} (hn : nodeName ≠ "") :
    (resultMap samples).lookup nodeName = none := by
  unfold resultMap
  suffices ∀ m : GoMap ℚ, m.lookup nodeName = none →
      (samples.foldl (fun m s => m.insert (sampleNodeName s.metric) s.value) m).lookup nodeName =
        none from this _ rfl
  induction samples with
  | nil => exact fun _ h => h
  | cons s ss ih =>
    intro m hm
    apply ih (fun s' h' => hs s' (.tail _ h'))
    rw [GoMap.lookup_insert, hs s (.head _), sampleNodeName_empty, if_neg (Ne.symm hn)]
    exact hm

/-- An answer of label-less samples reaches `getNodeStats` as a map without the node. -/
theorem query_of_unlabelled {api : String → Except String QueryResult} {q nodeName : String}
    (hn : nodeName ≠ "")
    (h : ∃ samples, api q = .ok (.vector samples) ∧ ∀ s ∈ samples, s.metric = GoMap.empty) :
    ∃ m, PrometheusClient.query (some api) q = .ok m ∧ m.lookup nodeName = none := by
  obtain ⟨samples, hq, hs⟩ := h
  exact ⟨_, by simp only [PrometheusClient.query, hq], resultMap_lookup_of_unlabelled hs hn⟩

/-- The plugin's aggregate queries lose the node: when the API answers the CPU count, the CPU
usage and the four rate queries with label-less samples, whatever their values, the CPU,
disk and network fields take their not-found defaults. -/
theorem getNodeStats_of_unlabelled (api : String → Except String QueryResult)
    (nodeName : String) (hn : nodeName ≠ "")
    (hagg : ∀ q, (q = cpuQuery nodeName ∨ q = cpuUsageQuery nodeName ∨
      ∃ metric, q = rateQuery metric nodeName) →
      ∃ samples, api q = .ok (.vector samples) ∧ ∀ s ∈ samples, s.metric = GoMap.empty) :
    (getNodeStats (some (PrometheusClient.query (some api))) nodeName).map
      (fun s => (s.cpuTotal, s.cpuFree, s.diskReadTotal, s.diskWriteTotal, s.netUpTotal,
        s.netDownTotal)) =
      .ok (1, 0.2, 100 * 1024 * 1024, 50 * 1024 * 1024, 125 * 1024 * 1024, 125 * 1024 * 1024) := by
  have hrate := fun metric => query_of_unlabelled hn (hagg (rateQuery metric nodeName)
    (.inr (.inr ⟨metric, rfl⟩)))
  obtain ⟨m1, h1, l1⟩ := query_of_unlabelled hn (hagg _ (.inl rfl))
  obtain ⟨m2, h2, l2⟩ := query_of_unlabelled hn (hagg _ (.inr (.inl rfl)))
  obtain ⟨m3, h3, l3⟩ := hrate "node_disk_read_bytes_total"
  obtain ⟨m4, h4, l4⟩ := hrate "node_disk_written_bytes_total"
  obtain ⟨m5, h5, l5⟩ := hrate "node_network_transmit_bytes_total"
  obtain ⟨m6, h6, l6⟩ := hrate "node_network_receive_bytes_total"
  simp only [getNodeStats, h1, h2, h3, h4, h5, h6, cpuTotalOf, cpuFreeOf, rateStats, l1, l2, l3,
    l4, l5, l6, Option.getD_none, Except.map]
  norm_num

end Plugin

namespace Extender

/-- A sample's labels: its instance and its device. -/
def deviceLabels (inst device : String) : GoMap String :=
  (GoMap.empty.insert "instance" inst).insert "device" device

/-- A source answering the disk-read rate query with the given samples and failing
elsewhere. -/
def diskReadSource (samples : List Sample) : String → Except String (List Sample) := fun q =>
  if q = "rate(node_disk_read_bytes_total[5m])" then .ok samples else .error "unavailable"

end Extender

/-- Samples reach the wrong field: the plugin's aggregates fall back to defaults whatever
their values; the extender keeps only the last of one instance's per-device disk samples,
and counts another node's samples whose instance contains the node's name. -/
theorem samples_misattributed :
    (∀ api nodeName, nodeName ≠ "" →
      (∀ q, (q = Plugin.cpuQuery nodeName ∨ q = Plugin.cpuUsageQuery nodeName ∨
        ∃ metric, q = Plugin.rateQuery metric nodeName) →
        ∃ samples, api q = .ok (.vector samples) ∧ ∀ s ∈ samples, s.metric = GoMap.empty) →
      (Plugin.getNodeStats (some (Plugin.PrometheusClient.query (some api))) nodeName).map
        (fun s => (s.cpuTotal, s.cpuFree, s.diskReadTotal, s.diskWriteTotal, s.netUpTotal,
          s.netDownTotal)) =
        .ok (1, 0.2, 100 * 1024 * 1024, 50 * 1024 * 1024, 125 * 1024 * 1024, 125 * 1024 * 1024)) ∧
    (∀ a b : ℚ, b ≠ 0 →
      (Extender.getNodeStats (Extender.queryPrometheus (Extender.diskReadSource
        [⟨Extender.deviceLabels "node1:9100" "sda", a⟩,
          ⟨Extender.deviceLabels "node1:9100" "sdb", b⟩])) "node1").diskReadTotal = 3 * b) ∧
    (∀ a c : ℚ, 0 < a → 0 < c →
      (Extender.getNodeStats (Extender.queryPrometheus (Extender.diskReadSource
        [⟨Extender.deviceLabels "node1:9100" "sda", a⟩,
          ⟨Extender.deviceLabels "node10:9100" "sda", c⟩])) "node1").diskReadTotal =
        3 * (a + c)) := by
  refine ⟨Plugin.getNodeStats_of_unlabelled, fun a b hb => ?_, fun a c ha hc => ?_⟩
  · simp +decide [Extender.getNodeStats, Extender.rateCapacity, Extender.matchedRate,
      Extender.queryPrometheus, Extender.diskReadSource, Extender.deviceLabels, GoMap.insert,
      insertEntry, GoMap.lookup, lookupEntry, instanceMatches, contains, infixOf, hostPart, hb,
      Except.map]
  · have hac : a + c ≠ 0 := by linarith
    simp +decide [Extender.getNodeStats, Extender.rateCapacity, Extender.matchedRate,
      Extender.queryPrometheus, Extender.diskReadSource, Extender.deviceLabels, GoMap.insert,
      insertEntry, GoMap.lookup, lookupEntry, instanceMatches, contains, infixOf, hostPart, hac,
      Except.map]

/-- The plugin's CPU count for a four-core `node1`: `count(...)` answers one label-less sample
of value `4`, and every field it feeds takes its default. -/
theorem samples_misattributed_node1 :
    (Plugin.getNodeStats (some (Plugin.PrometheusClient.query
      (some fun _ => .ok (.vector [⟨GoMap.empty, 4⟩])))) "node1").map
        (fun s => (s.cpuTotal, s.cpuFree, s.diskReadTotal, s.diskWriteTotal, s.netUpTotal,
          s.netDownTotal)) =
      .ok (1, 0.2, 100 * 1024 * 1024, 50 * 1024 * 1024, 125 * 1024 * 1024, 125 * 1024 * 1024) :=
  samples_misattributed.1 _ "node1" (by decide) fun _ _ => ⟨_, rfl, by simp⟩

end MultiResource
