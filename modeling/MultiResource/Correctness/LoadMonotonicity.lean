import MultiResource.Correctness.StatsBounds
import MultiResource.Correctness.DominantShare

/-!
# Load against estimated capacity in the extender

`GetNodeStats` estimates a disk or network capacity as three or five times the node's
observed rate, so the free capacity it reports is two or four times that rate: it grows with
the load. For responses that differ only in a node's rates, more load gives at least as much
free capacity in every dimension, so admission and `ScoreMultiResource` can only improve with
load, never the other way round.
-/

namespace MultiResource.Extender

/-- The four disk and network rate queries of `GetNodeStats`. -/
def rateQueries : List String :=
  ["rate(node_disk_read_bytes_total[5m])", "rate(node_disk_written_bytes_total[5m])",
    "rate(node_network_transmit_bytes_total[5m])", "rate(node_network_receive_bytes_total[5m])"]

/-- Two rate results over the same instances in the same order, where node `n`'s samples are
no larger in the first and every other instance's are equal. -/
def RatesBelow (nodeName : String) (m1 m2 : GoMap ℚ) : Prop :=
  List.Forall₂ (fun e1 e2 => e1.1 = e2.1 ∧ e1.2 ≤ e2.2 ∧ (hostPart e1.1 ≠ nodeName → e1.2 = e2.2))
    m1.entries m2.entries

/-- Responses that differ only in the disk and network rates reported for node `n`, each no
larger in the first. -/
def LessLoaded (nodeName : String) (q1 q2 : QueryFn) : Prop :=
  (∀ t, t ∉ rateQueries → q1 t = q2 t) ∧
    ∀ t ∈ rateQueries, q1 t = q2 t ∨
      ∃ m1 m2, q1 t = .ok m1 ∧ q2 t = .ok m2 ∧ RatesBelow nodeName m1 m2

/-- Summing the values of the entries whose name passes a test respects a pointwise order
between two entry lists over the same names. -/
theorem sum_filter_le {nodeName : String} {p : String → Bool} {l1 l2 : List (String × ℚ)}
    (h : List.Forall₂ (fun e1 e2 => e1.1 = e2.1 ∧ e1.2 ≤ e2.2 ∧ (hostPart e1.1 ≠ nodeName → e1.2 = e2.2))
      l1 l2) :
    ((l1.filter fun e => p e.1).map Prod.snd).sum ≤ ((l2.filter fun e => p e.1).map Prod.snd).sum := by
  induction h with
  | nil => exact le_rfl
  | @cons e1 e2 l1 l2 he _ ih =>
    rw [List.filter_cons, List.filter_cons, he.1]
    split_ifs
    · simpa only [List.map_cons, List.sum_cons] using add_le_add he.2.1 ih
    · exact ih

/-- The summed rate of the instances matching a node grows with its samples. -/
theorem matchedRate_le {nodeName : String} {m1 m2 : GoMap ℚ} (h : RatesBelow nodeName m1 m2) :
    matchedRate m1 nodeName ≤ matchedRate m2 nodeName :=
  sum_filter_le h

/-- With a positive summed rate the free capacity is `factor - 1` times that rate. -/
theorem rateCapacity_of_pos {m : GoMap ℚ} {nodeName : String} {factor defaultTotal defaultFree : ℚ}
    (hf : 1 < factor) (hr : 0 < matchedRate m nodeName) :
    (rateCapacity (.ok m) nodeName factor defaultTotal defaultFree).2 =
      (factor - 1) * matchedRate m nodeName := by
  have hfree : 0 < (factor - 1) * matchedRate m nodeName := mul_pos (by linarith) hr
  simp only [rateCapacity, hr.ne', if_false]
  split_ifs with h
  · linarith
  · ring

/-- For related rate results, one dimension's free capacity grows with the load, and is
either unchanged or positive under the lighter load. -/
theorem rateCapacity_free_mono {r1 r2 : Except String (GoMap ℚ)} {nodeName : String}
    {factor defaultTotal defaultFree : ℚ} (hf : 1 < factor)
    (hrel : r1 = r2 ∨ ∃ m1 m2, r1 = .ok m1 ∧ r2 = .ok m2 ∧ RatesBelow nodeName m1 m2)
    (hpos : ∀ m, r1 = .ok m → 0 < matchedRate m nodeName) :
    (rateCapacity r1 nodeName factor defaultTotal defaultFree).2 ≤
        (rateCapacity r2 nodeName factor defaultTotal defaultFree).2 ∧
      ((rateCapacity r1 nodeName factor defaultTotal defaultFree).2 =
          (rateCapacity r2 nodeName factor defaultTotal defaultFree).2 ∨
        0 < (rateCapacity r1 nodeName factor defaultTotal defaultFree).2) := by
  rcases hrel with rfl | ⟨m1, m2, rfl, rfl, hbelow⟩
  · exact ⟨le_rfl, .inl rfl⟩
  · have h1 := hpos m1 rfl
    have hle := matchedRate_le hbelow
    rw [rateCapacity_of_pos hf h1, rateCapacity_of_pos hf (h1.trans_le hle)]
    exact ⟨mul_le_mul_of_nonneg_left hle (by linarith), .inr (mul_pos (by linarith) h1)⟩

/-- Under the lighter responses every dimension has at most the free capacity it has under
the heavier ones, and either the same or a positive amount. -/
theorem getNodeStats_free_mono {nodeName : String} {q1 q2 : QueryFn}
    (hless : LessLoaded nodeName q1 q2)
    (hpos : ∀ t ∈ rateQueries, ∀ m, q1 t = .ok m → 0 < matchedRate m nodeName) (r : Resource) :
    (getNodeStats q1 nodeName).free r ≤ (getNodeStats q2 nodeName).free r ∧
      ((getNodeStats q1 nodeName).free r = (getNodeStats q2 nodeName).free r ∨
        0 < (getNodeStats q1 nodeName).free r) := by
  have hrate : ∀ t ∈ rateQueries, ∀ {factor dT dF : ℚ}, 1 < factor →
      (rateCapacity (q1 t) nodeName factor dT dF).2 ≤ (rateCapacity (q2 t) nodeName factor dT dF).2 ∧
        ((rateCapacity (q1 t) nodeName factor dT dF).2 =
            (rateCapacity (q2 t) nodeName factor dT dF).2 ∨
          0 < (rateCapacity (q1 t) nodeName factor dT dF).2) :=
    fun t ht _ _ _ hf => rateCapacity_free_mono hf (hless.2 t ht) (hpos t ht)
  cases r with
  | cpu =>
    simp only [NodeStats.free, getNodeStats, hless.1 cpuQuery (by decide), le_refl, true_or,
      and_self]
  | mem =>
    simp only [NodeStats.free, getNodeStats,
      hless.1 "node_memory_MemAvailable_bytes" (by decide), le_refl, true_or, and_self]
  | diskRead => exact hrate _ (by decide) (by norm_num)
  | diskWrite => exact hrate _ (by decide) (by norm_num)
  | netUp => exact hrate _ (by decide) (by norm_num)
  | netDown => exact hrate _ (by decide) (by norm_num)

/-- More load, more estimated capacity: for responses that differ only in node `n`'s disk
and network rates, each no larger in the first, with `n`'s summed rate positive in every
successful rate response of the first and a pod of non-negative demands, admission under the
lighter responses implies admission under the heavier ones, and the heavier ones score at
least as high. -/
theorem more_load_more_capacity (pod : Pod) (nodeName : String) (q1 q2 : QueryFn) (alpha : ℚ)
    (maxScore : ℤ) (hless : LessLoaded nodeName q1 q2)
    (hpos : ∀ t ∈ rateQueries, ∀ m, q1 t = .ok m → 0 < matchedRate m nodeName)
    (hdemand : ∀ r, 0 ≤ (extractPodRequirements pod).demand r) (hmax : 0 ≤ maxScore) :
    (canScheduleMulti (extractPodRequirements pod) (getNodeStats q1 nodeName) alpha = true →
      canScheduleMulti (extractPodRequirements pod) (getNodeStats q2 nodeName) alpha = true) ∧
    scoreMultiResource (extractPodRequirements pod) (getNodeStats q1 nodeName) maxScore ≤
      scoreMultiResource (extractPodRequirements pod) (getNodeStats q2 nodeName) maxScore := by
  have hfree := getNodeStats_free_mono hless hpos
  refine ⟨fun h1 => ?_, scoreMultiResource_le_of_free_le hmax hdemand (fun r => (hfree r).1)
    fun r => (hfree r).2⟩
  rw [canScheduleMulti_iff] at h1 ⊢
  exact fun r => (h1 r).trans (hfree r).1

/-- The disk-read rate query. -/
def diskReadQuery : String := "rate(node_disk_read_bytes_total[5m])"

/-- Node `n` reporting a lower disk-read rate on its exporter is less loaded. -/
theorem singleSample_lessLoaded {v1 v2 : ℚ} (hv : v1 ≤ v2) :
    LessLoaded "n" (singleSample diskReadQuery "n:9100" v1)
      (singleSample diskReadQuery "n:9100" v2) := by
  refine ⟨fun t ht => ?_, fun t _ => ?_⟩
  · have : t ≠ diskReadQuery := by rintro rfl; exact ht (by decide)
    simp [singleSample, this]
  · by_cases h : t = diskReadQuery
    · refine .inr ⟨GoMap.empty.insert "n:9100" v1, GoMap.empty.insert "n:9100" v2,
        by simp [singleSample, h], by simp [singleSample, h], ?_⟩
      exact .cons ⟨rfl, hv, fun hn => absurd (by decide : hostPart "n:9100" = "n") hn⟩ .nil
    · exact .inl (by simp [singleSample, h])

/-- A bare pod asks for the default I/O: 10 MiB/s of disk reads, 5 MiB/s of writes, 1 MiB/s
up and 2 MiB/s down. -/
theorem extractPodRequirements_barePod :
    extractPodRequirements barePod = ⟨0, 0, 10485760, 5242880, 1048576, 2097152, 0⟩ := by
  simp [extractPodRequirements, estimateIORequirements, parseResourceAnnotation_of_lookup_none,
    barePod, Pod.cpuCores, Pod.memRequest]
  norm_num

/-- The extender's stats for node `n` when only its disk-read rate is reported. -/
theorem getNodeStats_diskRead (v : ℚ) (hv : 0 < v) :
    getNodeStats (singleSample diskReadQuery "n:9100" v) "n" =
      ⟨6, 2, 32 * 1024 * 1024 * 1024, 16 * 1024 * 1024 * 1024, 3 * v, 2 * v,
        200 * 1024 * 1024, 100 * 1024 * 1024, 100 * 1024 * 1024, 80 * 1024 * 1024,
        200 * 1024 * 1024, 150 * 1024 * 1024⟩ := by
  have hv' : v ≠ 0 := hv.ne'
  have hfree : ¬ 3 * v - v < 0 := by linarith
  simp +decide [getNodeStats, cpuStats, memoryOr, rateCapacity, matchedRate, singleSample,
    diskReadQuery, GoMap.insert, insertEntry, GoMap.lookup, lookupEntry, instanceMatches,
    contains, infixOf, hostPart, matchInstance, hv', hfree]
  norm_num
  ring

/-- Less load does not mean more room: node `n` reading 1 MB/s of disk reads has 2 MB/s free and
rejects a bare pod's 10 MiB/s demand, while the same node reading 20 MB/s admits it. -/
theorem less_load_rejected :
    ¬ ∀ (pod : Pod) (nodeName : String) (q1 q2 : QueryFn) (alpha : ℚ) (maxScore : ℤ),
      LessLoaded nodeName q1 q2 →
      (canScheduleMulti (extractPodRequirements pod) (getNodeStats q2 nodeName) alpha = true →
        canScheduleMulti (extractPodRequirements pod) (getNodeStats q1 nodeName) alpha = true) ∧
      scoreMultiResource (extractPodRequirements pod) (getNodeStats q2 nodeName) maxScore ≤
        scoreMultiResource (extractPodRequirements pod) (getNodeStats q1 nodeName) maxScore := by
  intro h
  have hadm := (h barePod "n" _ _ 0.5 100 (singleSample_lessLoaded
    (by norm_num : (1000000 : ℚ) ≤ 20000000))).1
  rw [extractPodRequirements_barePod, getNodeStats_diskRead _ (by norm_num),
    getNodeStats_diskRead _ (by norm_num)] at hadm
  revert hadm
  norm_num [canScheduleMulti]

/-- More load, more capacity at node `n` reading 1 MB/s against 20 MB/s of disk reads. -/
theorem more_load_more_capacity_diskRead :
    (canScheduleMulti (extractPodRequirements barePod)
        (getNodeStats (singleSample diskReadQuery "n:9100" 1000000) "n") 0.5 = true →
      canScheduleMulti (extractPodRequirements barePod)
        (getNodeStats (singleSample diskReadQuery "n:9100" 20000000) "n") 0.5 = true) ∧
    scoreMultiResource (extractPodRequirements barePod)
        (getNodeStats (singleSample diskReadQuery "n:9100" 1000000) "n") 100 ≤
      scoreMultiResource (extractPodRequirements barePod)
        (getNodeStats (singleSample diskReadQuery "n:9100" 20000000) "n") 100 := by
  refine more_load_more_capacity barePod "n" _ _ 0.5 100
    (singleSample_lessLoaded (by norm_num)) (fun t _ m hm => ?_) (fun r => ?_) (by norm_num)
  · unfold singleSample at hm
    split_ifs at hm
    cases hm
    simp +decide [matchedRate, GoMap.insert, insertEntry, instanceMatches, contains, infixOf,
      hostPart]
  · rw [extractPodRequirements_barePod]
    cases r <;> norm_num [PodRequest.demand]

end MultiResource.Extender
