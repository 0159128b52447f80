import Mathlib.Algebra.Order.BigOperators.Group.List
import MultiResource.Models.Cache
import MultiResource.Models.Preemptive.Metrics

/-!
# Which node stats stay within capacity

For metrics responses of non-negative samples, the plugin's `getNodeStats` and the extender's
`GetNodeStats` keep `0 ≤ free ≤ total` in every dimension but memory, whose total and free
bytes come from two unrelated samples or defaults; so does every entry either cache ever
holds. The preemptive scheduler subtracts usage from total unclamped.
-/

namespace MultiResource

/-- What the plugin's and the extender's node stats keep: every dimension but memory within
its total, and memory's two fields non-negative. -/
def NodeStats.WithinCapacity (s : NodeStats) : Prop :=
  (∀ r, r ≠ .mem → s.Bounded r) ∧ 0 ≤ s.memTotal ∧ 0 ≤ s.memFree

/-- `WithinCapacity` field by field. -/
theorem NodeStats.withinCapacity_iff (s : NodeStats) :
    s.WithinCapacity ↔ (0 ≤ s.cpuFree ∧ s.cpuFree ≤ s.cpuTotal) ∧
      (0 ≤ s.diskReadFree ∧ s.diskReadFree ≤ s.diskReadTotal) ∧
      (0 ≤ s.diskWriteFree ∧ s.diskWriteFree ≤ s.diskWriteTotal) ∧
      (0 ≤ s.netUpFree ∧ s.netUpFree ≤ s.netUpTotal) ∧
      (0 ≤ s.netDownFree ∧ s.netDownFree ≤ s.netDownTotal) ∧ 0 ≤ s.memTotal ∧ 0 ≤ s.memFree := by
  simp only [WithinCapacity, Resource.forall_iff, Bounded, free, total, ne_eq,
    not_true_eq_false, reduceCtorEq, not_false_eq_true, forall_const, false_implies, true_and,
    and_assoc]

/-- A metrics outcome whose samples, if any, are non-negative. -/
def ResultNonneg (result : Except String (GoMap ℚ)) : Prop :=
  ∀ m, result = .ok m → m.All (0 ≤ ·)

/-- Every answer of a non-negative responder is non-negative. -/
theorem QueryFn.Nonneg.result {query : QueryFn} (hq : query.Nonneg) (q : String) :
    ResultNonneg (query q) := hq q

namespace Plugin

variable {result : Except String (GoMap ℚ)} {nodeName : String}

/-- A disk or network section gives `0 ≤ free ≤ total`. -/
theorem rateStats_bounded (hr : ResultNonneg result) {defaultTotal : ℚ} (hd : 0 ≤ defaultTotal) :
    0 ≤ (rateStats result nodeName defaultTotal).2 ∧
      (rateStats result nodeName defaultTotal).2 ≤ (rateStats result nodeName defaultTotal).1 := by
  unfold rateStats
  split
  · norm_num
  · split
    · have hv := (hr _ rfl).lookup ‹_›
      constructor <;> norm_num <;> linarith
    · constructor <;> norm_num <;> linarith

/-- The plugin's CPU total is never negative on non-negative samples. -/
theorem cpuTotalOf_nonneg (hr : ResultNonneg result) : 0 ≤ cpuTotalOf result nodeName := by
  unfold cpuTotalOf
  split
  · exact le_rfl
  · cases h : ‹GoMap ℚ›.lookup nodeName
    · norm_num
    · exact (hr _ rfl).lookup h

/-- The free cores lie between zero and the total. -/
theorem cpuFreeOf_mem_Icc (hr : ResultNonneg result) {cpuTotal : ℚ} (ht : 0 ≤ cpuTotal) :
    0 ≤ cpuFreeOf result nodeName cpuTotal ∧ cpuFreeOf result nodeName cpuTotal ≤ cpuTotal := by
  unfold cpuFreeOf
  split
  · constructor <;> linarith
  · split
    · rename_i v hlookup
      have hv := (hr _ rfl).lookup hlookup
      have hu : 0 ≤ 1.0 - (if v > (1.0 : ℚ) then 1.0 else v) ∧
          1.0 - (if v > (1.0 : ℚ) then 1.0 else v) ≤ (1 : ℚ) := by
        split_ifs <;> constructor <;> linarith
      exact ⟨mul_nonneg ht hu.1, mul_le_of_le_one_right ht hu.2⟩
    · constructor <;> linarith

/-- The plugin's memory total is never negative on non-negative samples. -/
theorem memTotalOf_nonneg (hr : ResultNonneg result) : 0 ≤ memTotalOf result nodeName := by
  unfold memTotalOf
  split
  · exact le_rfl
  · cases h : ‹GoMap ℚ›.lookup nodeName
    · norm_num
    · exact (hr _ rfl).lookup h

/-- The plugin's free memory is never negative on non-negative samples and total. -/
theorem memFreeOf_nonneg (hr : ResultNonneg result) {memTotal : ℚ} (ht : 0 ≤ memTotal) :
    0 ≤ memFreeOf result nodeName memTotal := by
  unfold memFreeOf
  split
  · linarith
  · cases h : ‹GoMap ℚ›.lookup nodeName
    · simp only [Option.getD_none]
      linarith
    · exact (hr _ rfl).lookup h

/-- For non-negative responses the plugin's stats keep every dimension but memory within its
total. -/
theorem getNodeStats_withinCapacity {promClient : Option QueryFn}
    (hq : ∀ query, promClient = some query → query.Nonneg) (nodeName : String) {s : NodeStats}
    (h : getNodeStats promClient nodeName = .ok s) : s.WithinCapacity := by
  cases promClient with
  | none => cases h
  | some query =>
    have hq := hq query rfl
    simp only [getNodeStats, Except.ok.injEq] at h
    subst h
    have hmem : 0 ≤ memTotalOf (query (memTotalQuery nodeName)) nodeName :=
      memTotalOf_nonneg (hq.result _)
    exact (NodeStats.withinCapacity_iff _).mpr
      ⟨cpuFreeOf_mem_Icc (hq.result _) (cpuTotalOf_nonneg (hq.result _)),
        rateStats_bounded (hq.result _) (by norm_num), rateStats_bounded (hq.result _) (by norm_num),
        rateStats_bounded (hq.result _) (by norm_num), rateStats_bounded (hq.result _) (by norm_num),
        hmem, memFreeOf_nonneg (hq.result _) hmem⟩

section Cache

variable {P : NodeStats → Prop} {promClient : Option QueryFn} {cache : GoMap NodeStats}

/-- A lookup-or-refresh writes only what `getNodeStats` returned. -/
theorem statsOrRefresh_all (hc : cache.All P) {nodeName : String}
    (hs : ∀ s, getNodeStats promClient nodeName = .ok s → P s) :
    (statsOrRefresh promClient nodeName cache).2.All P := by
  unfold statsOrRefresh
  split
  · exact hc
  · split
    · exact hc
    · exact hc.insert (hs _ ‹_›)

/-- `Filter` leaves the cache as its lookup-or-refresh does. -/
theorem filter_snd (pod : Pod) (nodeName : String) :
    (filter promClient pod nodeName cache).2 = (statsOrRefresh promClient nodeName cache).2 := by
  rcases h : statsOrRefresh promClient nodeName cache with ⟨r, c⟩
  cases r <;> simp only [filter, h, apply_ite Prod.snd, ite_self]

/-- `Score` leaves the cache as its lookup-or-refresh does. -/
theorem score_snd (p : Config) (pod : Pod) (nodeName : String) :
    (score p promClient pod nodeName cache).2 = (statsOrRefresh promClient nodeName cache).2 := by
  rcases h : statsOrRefresh promClient nodeName cache with ⟨r, c⟩
  cases r <;> simp only [score, h]

/-- The periodic refresh writes only what `getNodeStats` returned. -/
theorem updateAllNodeStats_all (hc : cache.All P)
    (hs : ∀ nodeName s, getNodeStats promClient nodeName = .ok s → P s)
    (nodes : Except String (List String)) : (updateAllNodeStats promClient nodes cache).All P := by
  unfold updateAllNodeStats
  split
  · exact hc
  · rename_i names
    induction names generalizing cache with
    | nil => exact hc
    | cons n ns ih =>
      apply ih
      dsimp only
      split
      · exact hc.insert (hs _ _ ‹_›)
      · exact hc

end Cache

/-- An event whose metrics client answers with non-negative samples. -/
def CacheEvent.Nonneg (ev : CacheEvent) : Prop :=
  ∀ query, ev.promClient = some query → query.Nonneg

/-- One event keeps every cached entry within capacity. -/
theorem CacheEvent.apply_withinCapacity {ev : CacheEvent} (hev : ev.Nonneg)
    {cache : GoMap NodeStats} (hc : cache.All NodeStats.WithinCapacity) :
    (ev.apply cache).All NodeStats.WithinCapacity := by
  cases ev with
  | filter c pod nodeName =>
    rw [CacheEvent.apply, filter_snd]
    exact statsOrRefresh_all hc fun _ => getNodeStats_withinCapacity hev nodeName
  | score p c pod nodeName =>
    rw [CacheEvent.apply, score_snd]
    exact statsOrRefresh_all hc fun _ => getNodeStats_withinCapacity hev nodeName
  | updateAll c nodes =>
    exact updateAllNodeStats_all hc (fun n _ => getNodeStats_withinCapacity hev n) nodes

/-- Every run of events keeps every cached entry within capacity. -/
theorem runCache_withinCapacity {events : List CacheEvent} (hev : ∀ ev ∈ events, ev.Nonneg)
    {cache : GoMap NodeStats} (hc : cache.All NodeStats.WithinCapacity) :
    (runCache cache events).All NodeStats.WithinCapacity := by
  induction events generalizing cache with
  | nil => exact hc
  | cons ev evs ih =>
    exact ih (fun e he => hev e (.tail _ he))
      (CacheEvent.apply_withinCapacity (hev ev (.head _)) hc)

end Plugin

namespace Extender

variable {result : Except String (GoMap ℚ)} {nodeName : String}

/-- The CPU section: six cores, with the free cores between zero and six. -/
theorem cpuStats_bounded (hr : ResultNonneg result) :
    (cpuStats result nodeName).1 = 6 ∧ 0 ≤ (cpuStats result nodeName).2 ∧
      (cpuStats result nodeName).2 ≤ (cpuStats result nodeName).1 := by
  unfold cpuStats
  split
  · norm_num
  · split
    · norm_num
    · have hu := matchInstance_nonneg (hr _ rfl) ‹_›
      split_ifs with h
      · norm_num
      · norm_num at h ⊢
        exact ⟨h, hu⟩

/-- The extender's memory reading is never negative on non-negative samples and default. -/
theorem memoryOr_nonneg (hr : ResultNonneg result) {default : ℚ} (hd : 0 ≤ default) :
    0 ≤ memoryOr result nodeName default := by
  unfold memoryOr
  split
  · exact hd
  · cases h : matchInstance ‹GoMap ℚ› nodeName
    · exact hd
    · exact matchInstance_nonneg (hr _ rfl) h

/-- A sum of non-negative matched rates is non-negative. -/
theorem matchedRate_nonneg {m : GoMap ℚ} (hm : m.All (0 ≤ ·)) (nodeName : String) :
    0 ≤ matchedRate m nodeName :=
  List.sum_nonneg fun x hx => by
    obtain ⟨e, he, rfl⟩ := List.mem_map.mp hx
    exact hm e (List.mem_filter.mp he).1

/-- A disk or network section gives `0 ≤ free ≤ total` when its defaults do. -/
theorem rateCapacity_bounded (hr : ResultNonneg result) {factor defaultTotal defaultFree : ℚ}
    (hf : 1 ≤ factor) (hd0 : 0 ≤ defaultFree) (hd1 : defaultFree ≤ defaultTotal) :
    0 ≤ (rateCapacity result nodeName factor defaultTotal defaultFree).2 ∧
      (rateCapacity result nodeName factor defaultTotal defaultFree).2 ≤
        (rateCapacity result nodeName factor defaultTotal defaultFree).1 := by
  unfold rateCapacity
  split
  · exact ⟨hd0, hd1⟩
  · rename_i m
    have hrate : 0 ≤ if matchedRate m nodeName = 0 then (m.entries.head?.map Prod.snd).getD 0
        else matchedRate m nodeName := by
      split_ifs
      · cases h : m.entries.head? with
        | none => simp
        | some e => simpa [h] using (hr _ rfl) e (List.mem_of_mem_head? h)
      · exact matchedRate_nonneg (hr _ rfl) nodeName
    dsimp only
    generalize (if matchedRate m nodeName = 0 then (m.entries.head?.map Prod.snd).getD 0
        else matchedRate m nodeName) = rate at hrate ⊢
    have : 0 ≤ factor * rate := mul_nonneg (by linarith) hrate
    split_ifs <;> dsimp only <;> constructor <;> linarith

/-- For non-negative responses the extender's stats keep every dimension but memory within
its total, with six CPU cores. -/
theorem getNodeStats_withinCapacity {query : QueryFn} (hq : query.Nonneg) (nodeName : String) :
    (getNodeStats query nodeName).WithinCapacity ∧ (getNodeStats query nodeName).cpuTotal = 6 := by
  have hcpu : (cpuStats (query cpuQuery) nodeName).1 = 6 ∧ 0 ≤ (cpuStats (query cpuQuery) nodeName).2 ∧
      (cpuStats (query cpuQuery) nodeName).2 ≤ (cpuStats (query cpuQuery) nodeName).1 :=
    cpuStats_bounded (hq.result cpuQuery)
  exact ⟨(NodeStats.withinCapacity_iff _).mpr
    ⟨hcpu.2, rateCapacity_bounded (hq.result _) (by norm_num) (by norm_num) (by norm_num),
      rateCapacity_bounded (hq.result _) (by norm_num) (by norm_num) (by norm_num),
      rateCapacity_bounded (hq.result _) (by norm_num) (by norm_num) (by norm_num),
      rateCapacity_bounded (hq.result _) (by norm_num) (by norm_num) (by norm_num),
      memoryOr_nonneg (hq.result _) (by norm_num), memoryOr_nonneg (hq.result _) (by norm_num)⟩,
    hcpu.1⟩

/-- The periodic refresh writes only stats that its `GetNodeStats` calls returned. -/
theorem updateAllNodeStats_all {P : NodeStats → Prop} {prom : ℕ → QueryFn}
    {cache : GoMap NodeStats} (hc : cache.All P)
    (hs : ∀ t nodeName, P (getNodeStats (prom t) nodeName)) :
    (updateAllNodeStats prom cache).All P := by
  unfold updateAllNodeStats
  split
  · exact hc
  · rename_i cpuMetrics _
    induction cpuMetrics.entries.enum generalizing cache with
    | nil => exact hc
    | cons inst rest ih => exact ih (hc.insert (hs _ _))

/-- Every run of refreshes with non-negative responses keeps every cached entry within
capacity. -/
theorem runCache_withinCapacity {refreshes : List (ℕ → QueryFn)}
    (hq : ∀ prom ∈ refreshes, ∀ t, (prom t).Nonneg) {cache : GoMap NodeStats}
    (hc : cache.All NodeStats.WithinCapacity) :
    (runCache cache refreshes).All NodeStats.WithinCapacity := by
  induction refreshes generalizing cache with
  | nil => exact hc
  | cons prom proms ih =>
    exact ih (fun prom' h => hq prom' (.tail _ h))
      (updateAllNodeStats_all hc fun t n => (getNodeStats_withinCapacity (hq prom (.head _) t) n).1)

end Extender

/-- A query answering one sample to one query text and failing elsewhere. -/
def singleSample (text inst : String) (value : ℚ) : QueryFn := fun q =>
  if q = text then .ok (GoMap.empty.insert inst value) else .error "unavailable"

/-- A responder reporting one non-negative sample is non-negative. -/
theorem singleSample_nonneg {text inst : String} {value : ℚ} (hv : 0 ≤ value) :
    (singleSample text inst value).Nonneg := by
  intro q m h
  unfold singleSample at h
  split_ifs at h
  cases h
  exact (GoMap.all_empty _).insert hv

/-- The spec's invariant fails in all three: the plugin's CPU total is `0` when its query
fails, the extender's free memory exceeds a small reported total, and the preemptive
scheduler's free CPU goes negative once usage exceeds its six assumed cores. -/
theorem nodeStats_not_wellFormed :
    (¬ ∀ (query : QueryFn) nodeName s, query.Nonneg →
      Plugin.getNodeStats (some query) nodeName = .ok s → s.WellFormed) ∧
    (¬ ∀ (query : QueryFn) nodeName, query.Nonneg →
      (Extender.getNodeStats query nodeName).WellFormed) ∧
    (¬ ∀ (query : QueryFn) nodeName, query.Nonneg →
      (Preemptive.getNodeStats query nodeName).WellFormed) := by
  refine ⟨fun h => ?_, fun h => ?_, fun h => ?_⟩
  · have hcpu := (h (fun _ => .error "unavailable") "n" _ (fun _ _ h => nomatch h) rfl).2.1
    simp [Plugin.cpuTotalOf] at hcpu
  · have hmem := ((h (singleSample "node_memory_MemTotal_bytes" "n:9100" 1) "n"
      (singleSample_nonneg (by norm_num))).1 .mem).2
    simp [Extender.getNodeStats, Extender.memoryOr, singleSample, matchInstance,
      NodeStats.free, NodeStats.total] at hmem
    norm_num at hmem
  · have hcpu := ((h (singleSample
      "sum(rate(node_cpu_seconds_total\x7bmode!=\"idle\"\x7d[5m])) by (instance)" "n:9100" 8) "n"
      (singleSample_nonneg (by norm_num))).1 .cpu).1
    simp [Preemptive.getNodeStats, singleSample, matchInstance, NodeStats.free] at hcpu
    norm_num at hcpu

/-- What does hold for responses of non-negative samples: the plugin's and the extender's
stats keep every dimension but memory within its total, the extender reports six CPU cores,
and every entry either cache holds after any run from its empty start is within capacity. -/
theorem nodeStats_within_capacity :
    (∀ (query : QueryFn) nodeName s, query.Nonneg →
      Plugin.getNodeStats (some query) nodeName = .ok s → s.WithinCapacity) ∧
    (∀ (query : QueryFn) nodeName, query.Nonneg →
      (Extender.getNodeStats query nodeName).WithinCapacity ∧
        (Extender.getNodeStats query nodeName).cpuTotal = 6) ∧
    (∀ events, (∀ ev ∈ events, Plugin.CacheEvent.Nonneg ev) →
      (Plugin.runCache GoMap.empty events).All NodeStats.WithinCapacity) ∧
    (∀ refreshes : List (ℕ → QueryFn), (∀ prom ∈ refreshes, ∀ t, QueryFn.Nonneg (prom t)) →
      (Extender.runCache GoMap.empty refreshes).All NodeStats.WithinCapacity) :=
  ⟨fun _ nodeName _ hq h =>
      Plugin.getNodeStats_withinCapacity (fun _ hs => Option.some_injective _ hs ▸ hq) nodeName h,
    fun _ nodeName hq => Extender.getNodeStats_withinCapacity hq nodeName,
    fun _ hev => Plugin.runCache_withinCapacity hev (GoMap.all_empty _),
    fun _ hq => Extender.runCache_withinCapacity hq (GoMap.all_empty _)⟩

end MultiResource
