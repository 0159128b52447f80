import MultiResource.Correctness.Admission

/-!
# Greedy victim selection, then eviction

The accumulation loop returns the shortest non-empty prefix of the sorted candidates whose
requests would let the node fit the demand's CPU and memory; only then are evictions issued,
in that order, stopping at the first failed call. Nothing is evicted when the listing fails
or no prefix suffices, and every evicted pod is a listed running pod of lower priority.
-/

namespace MultiResource.Preemptive

/-- The CPU the pods `V` request. -/
def freedCpu (V : List RunningPod) : ℚ := (V.map (·.cpuRequest)).sum

/-- The memory the pods `V` request. -/
def freedMem (V : List RunningPod) : ℚ := (V.map (·.memRequest)).sum

/-- No victims free no CPU. -/
@[simp] theorem freedCpu_nil : freedCpu [] = 0 := rfl

/-- No victims free no memory. -/
@[simp] theorem freedMem_nil : freedMem [] = 0 := rfl

/-- The CPU two victim lists free is the sum of what each frees. -/
@[simp] theorem freedCpu_append (V W : List RunningPod) :
    freedCpu (V ++ W) = freedCpu V + freedCpu W := by simp [freedCpu, List.sum_append]

/-- The memory two victim lists free is the sum of what each frees. -/
@[simp] theorem freedMem_append (V W : List RunningPod) :
    freedMem (V ++ W) = freedMem V + freedMem W := by simp [freedMem, List.sum_append]

/-- Evicting `V` would let the node fit the demand's CPU and memory: the loop's test. -/
def Sufficient (stats : NodeStats) (pod : PodRequest) (V : List RunningPod) : Prop :=
  pod.cpu ≤ stats.cpuFree + freedCpu V ∧ pod.mem ≤ stats.memFree + freedMem V

/-- Whether victims suffice is decidable. -/
instance (stats : NodeStats) (pod : PodRequest) (V : List RunningPod) :
    Decidable (Sufficient stats pod V) :=
  inferInstanceAs (Decidable (_ ∧ _))

/-- `C.take k` is the shortest non-empty prefix of `C` whose eviction would suffice. -/
def ShortestSufficient (stats : NodeStats) (pod : PodRequest) (C : List RunningPod)
    (k : ℕ) : Prop :=
  1 ≤ k ∧ k ≤ C.length ∧ Sufficient stats pod (C.take k) ∧
    ∀ j, 1 ≤ j → j < k → ¬Sufficient stats pod (C.take j)

/-- The calls that evict a decided victim set `V`: its pods in order up to and including
the first failed call, the result `true` exactly when every call succeeds. -/
def EvictsInOrder (outcome : ℕ → Except String Unit) (V : List RunningPod)
    (r : Bool × List RunningPod) : Prop :=
  (r.1 = true ↔ ∀ i < V.length, outcome i = .ok ()) ∧ (r.1 = true → r.2 = V) ∧
    (r.1 = false → ∃ m < V.length, (∀ i < m, outcome i = .ok ()) ∧
      (∃ e, outcome m = .error e) ∧ r.2 = V.take (m + 1))

section Accumulate

variable {stats : NodeStats} {pod : PodRequest}

/-- One turn of the loop, with the accumulators equal to the victims' sums. -/
theorem accumulateVictims_cons (acc : List RunningPod) (c : RunningPod) (cs : List RunningPod) :
    accumulateVictims stats pod (freedCpu acc) (freedMem acc) acc (c :: cs) =
      if Sufficient stats pod (acc ++ [c]) then some (acc ++ [c])
      else accumulateVictims stats pod (freedCpu (acc ++ [c])) (freedMem (acc ++ [c]))
        (acc ++ [c]) cs := by
  simp [accumulateVictims, Sufficient, freedCpu, freedMem, List.sum_append]

/-- The loop finds nothing exactly when no non-empty prefix suffices. -/
theorem accumulateVictims_eq_none_iff (acc cs : List RunningPod) :
    accumulateVictims stats pod (freedCpu acc) (freedMem acc) acc cs = none ↔
      ∀ k, 1 ≤ k → k ≤ cs.length → ¬Sufficient stats pod (acc ++ cs.take k) := by
  induction cs generalizing acc with
  | nil =>
    simp only [accumulateVictims, List.length_nil, true_iff]
    omega
  | cons c cs ih =>
    rw [accumulateVictims_cons]
    split_ifs with hs
    · simp only [reduceCtorEq, false_iff, not_forall, not_not]
      exact ⟨1, le_rfl, by simp, by simpa using hs⟩
    · rw [ih]
      constructor
      · rintro H (_ | _ | k) hk1 hk2
        · omega
        · simpa using hs
        · simpa using H (k + 1) (by omega) (by simp at hk2; omega)
      · intro H k hk1 hk2
        simpa using H (k + 1) (by omega) (by simp; omega)

/-- What the loop returns is the victims so far followed by the shortest sufficient prefix. -/
theorem accumulateVictims_eq_some {acc cs V : List RunningPod}
    (h : accumulateVictims stats pod (freedCpu acc) (freedMem acc) acc cs = some V) :
    ∃ k, 1 ≤ k ∧ k ≤ cs.length ∧ V = acc ++ cs.take k ∧ Sufficient stats pod V ∧
      ∀ j, 1 ≤ j → j < k → ¬Sufficient stats pod (acc ++ cs.take j) := by
  induction cs generalizing acc with
  | nil => simp [accumulateVictims] at h
  | cons c cs ih =>
    rw [accumulateVictims_cons] at h
    split_ifs at h with hs
    · cases h
      exact ⟨1, le_rfl, by simp, by simp, hs, fun j hj1 hj2 => by omega⟩
    · obtain ⟨k, hk1, hk2, rfl, hV, hmin⟩ := ih h
      refine ⟨k + 1, by omega, by simp; omega, by simp, hV, fun j hj1 hj2 => ?_⟩
      rcases j with _ | _ | j
      · omega
      · simpa using hs
      · simpa using hmin (j + 1) (by omega) (by omega)

/-- From an empty victim set the loop finds nothing exactly when no non-empty prefix
suffices. -/
theorem accumulateVictims_nil_eq_none_iff (C : List RunningPod) :
    accumulateVictims stats pod 0 0 [] C = none ↔
      ∀ k, 1 ≤ k → k ≤ C.length → ¬Sufficient stats pod (C.take k) := by
  simpa using @accumulateVictims_eq_none_iff stats pod [] C

/-- From an empty victim set the loop returns a shortest sufficient prefix. -/
theorem accumulateVictims_nil_eq_some {C V : List RunningPod}
    (h : accumulateVictims stats pod 0 0 [] C = some V) :
    ∃ k, 1 ≤ k ∧ k ≤ C.length ∧ V = C.take k ∧ Sufficient stats pod V ∧
      ∀ j, 1 ≤ j → j < k → ¬Sufficient stats pod (C.take j) := by
  simpa using accumulateVictims_eq_some
    (show accumulateVictims stats pod (freedCpu []) (freedMem []) [] C = some V from h)

/-- From an empty victim set the loop returns the shortest sufficient prefix itself. -/
theorem accumulateVictims_shortest {C : List RunningPod} {k : ℕ}
    (hk : ShortestSufficient stats pod C k) : accumulateVictims stats pod 0 0 [] C = some (C.take k) := by
  obtain ⟨hk1, hk2, hs, hmin⟩ := hk
  cases hV : accumulateVictims stats pod 0 0 [] C with
  | none => exact absurd hs ((accumulateVictims_nil_eq_none_iff C).mp hV k hk1 hk2)
  | some V =>
    obtain ⟨k', hk1', hk2', rfl, hs', hmin'⟩ := accumulateVictims_nil_eq_some hV
    have hkk : k = k' := le_antisymm (not_lt.mp fun hgt => hmin k' hk1' hgt hs')
      (not_lt.mp fun hlt => hmin' k hk1 hlt hs)
    rw [hkk]

end Accumulate

section Evict

variable (outcome : ℕ → Except String Unit)

/-- The calls made are a prefix of the victims. -/
theorem evictVictims_snd_prefix_victims (k : ℕ) (V : List RunningPod) : (evictVictims outcome k V).2 <+: V := by
  induction V generalizing k with
  | nil => simp [evictVictims]
  | cons v vs ih =>
    simp only [evictVictims]
    split
    · exact ⟨vs, rfl⟩
    · obtain ⟨t, ht⟩ := ih (k + 1)
      exact ⟨t, by rw [List.cons_append, ht]⟩

/-- The loop reports success exactly when every call succeeds. -/
theorem evictVictims_fst_iff (k : ℕ) (V : List RunningPod) :
    (evictVictims outcome k V).1 = true ↔ ∀ i < V.length, outcome (k + i) = .ok () := by
  induction V generalizing k with
  | nil => simp [evictVictims]
  | cons v vs ih =>
    simp only [evictVictims]
    split
    · rename_i e he
      simp only [Bool.false_eq_true, false_iff, not_forall]
      exact ⟨0, by simp, by simp [he]⟩
    · rename_i he
      rw [ih]
      constructor
      · rintro H (_ | i) hi
        · simpa using he
        · rw [show k + (i + 1) = k + 1 + i by omega]
          exact H i (by simpa using hi)
      · intro H i hi
        rw [show k + 1 + i = k + (i + 1) by omega]
        exact H (i + 1) (by simpa using hi)

/-- After a success every victim has been evicted. -/
theorem evictVictims_of_true {k : ℕ} {V : List RunningPod} (h : (evictVictims outcome k V).1 = true) :
    (evictVictims outcome k V).2 = V := by
  induction V generalizing k with
  | nil => rfl
  | cons v vs ih =>
    simp only [evictVictims] at h ⊢
    split at h
    · cases h
    · rename_i he
      simp only [he]
      exact congrArg (v :: ·) (ih h)

/-- After a failure the calls stop right after the first failed one. -/
theorem evictVictims_of_false {k : ℕ} {V : List RunningPod}
    (h : (evictVictims outcome k V).1 = false) :
    ∃ m < V.length, (∀ i < m, outcome (k + i) = .ok ()) ∧ (∃ e, outcome (k + m) = .error e) ∧
      (evictVictims outcome k V).2 = V.take (m + 1) := by
  induction V generalizing k with
  | nil => cases h
  | cons v vs ih =>
    simp only [evictVictims] at h ⊢
    split at h
    · rename_i e he
      simp only [he]
      exact ⟨0, by simp, by simp, ⟨e, he⟩, by simp⟩
    · rename_i he
      obtain ⟨m, hm, hok, herr, htake⟩ := ih h
      simp only [he]
      refine ⟨m + 1, by simpa using hm, ?_, by rwa [show k + (m + 1) = k + 1 + m by omega],
        by simp [htake]⟩
      rintro (_ | i) hi
      · simpa using he
      · rw [show k + (i + 1) = k + 1 + i by omega]
        exact hok i (by omega)

/-- The eviction loop from the first call obeys `EvictsInOrder`. -/
theorem evictVictims_evictsInOrder (V : List RunningPod) :
    EvictsInOrder outcome V (evictVictims outcome 0 V) := by
  refine ⟨by simpa using evictVictims_fst_iff outcome 0 V, evictVictims_of_true outcome, ?_⟩
  intro h
  simpa using evictVictims_of_false outcome h

end Evict

section Attempt

variable (srt : PrioritySort) (client : Client) (pod : PodRequest) (nodeName : String)
  (stats : NodeStats)

/-- With a listing at hand, preemption is the loop over the sorted candidates and then the
eviction of what it returns; the early return on no candidates is the loop's own `none`. -/
theorem attemptPreemptionMulti_of_ok {running : List RunningPod}
    (h : getRunningPods (client.listPods nodeName) = .ok running) :
    attemptPreemptionMulti srt client pod nodeName stats =
      match accumulateVictims stats pod 0 0 [] (srt.sort (lowerPriority pod running)) with
      | none => (false, [])
      | some victims => evictVictims client.evictOutcome 0 victims := by
  simp only [attemptPreemptionMulti, h]
  split_ifs with he
  · rw [List.isEmpty_iff.mp he, (srt.perm []).eq_nil]
    rfl
  · rfl

/-- Every call preemption makes is for a listed running pod of lower priority, and no pod is
evicted more often than it is listed. -/
theorem attemptPreemptionMulti_calls {running : List RunningPod}
    (h : getRunningPods (client.listPods nodeName) = .ok running) :
    (∀ p ∈ (attemptPreemptionMulti srt client pod nodeName stats).2, p.priority < pod.priority) ∧
      (attemptPreemptionMulti srt client pod nodeName stats).2.Subperm running := by
  have hC : (srt.sort (lowerPriority pod running)).Subperm running :=
    (srt.perm _).subperm.trans (List.filter_sublist _).subperm
  have hlow : ∀ p ∈ srt.sort (lowerPriority pod running), p.priority < pod.priority := by
    intro p hp
    exact (List.mem_filter.mp ((srt.perm _).mem_iff.mp hp)).2 |> of_decide_eq_true
  rw [attemptPreemptionMulti_of_ok srt client pod nodeName stats h]
  split
  · simp
  · rename_i V hV
    have hVC : V.Subperm (srt.sort (lowerPriority pod running)) := by
      obtain ⟨k, -, -, rfl, -⟩ := accumulateVictims_nil_eq_some hV
      exact (List.take_sublist _ _).subperm
    have hcalls := ((evictVictims_snd_prefix_victims client.evictOutcome 0 V).sublist.subperm).trans hVC
    exact ⟨fun p hp => hlow p (hcalls.subset hp), hcalls.trans hC⟩

/-- The candidates of a listing are its pods in phase `Running` whose priority (`0` when
unset) is below the demand's, as `runningPodOf` builds them, in listing order. -/
theorem lowerPriority_of_listing (items : List Pod) :
    lowerPriority pod ((items.filter fun p => p.phase = .running).map runningPodOf) =
      (items.filter fun p => p.phase = .running ∧ p.priority.getD 0 < pod.priority).map
        runningPodOf := by
  simp only [lowerPriority, List.filter_map, List.filter_filter, Function.comp_def, runningPodOf,
    Bool.decide_and]
  exact congrArg _ (List.filter_congr fun _ _ => Bool.and_comm _ _)

/-- Preemption is the greedy lowest-priority-first prefix, decided before any eviction. Let
`C` be the listing's pods in phase `Running` with priority below the demand's, as
`runningPodOf` builds them, in the order the sort gives. Nothing is evicted when the listing
fails or no non-empty prefix of `C` suffices; otherwise the shortest sufficient prefix is
evicted in order, stopping at the first failed call, and the result is `true` exactly when
every call succeeds. Every call is for a running pod of the listing with lower priority, and
none is made twice for a pod listed once. -/
theorem attemptPreemptionMulti_greedy_prefix :
    (∀ e, client.listPods nodeName = .error e →
      attemptPreemptionMulti srt client pod nodeName stats = (false, [])) ∧
    ∀ items, client.listPods nodeName = .ok items →
      let C := srt.sort ((items.filter fun p =>
        p.phase = .running ∧ p.priority.getD 0 < pod.priority).map runningPodOf)
      ((∀ k, 1 ≤ k → k ≤ C.length → ¬Sufficient stats pod (C.take k)) →
        attemptPreemptionMulti srt client pod nodeName stats = (false, [])) ∧
      (∀ k, ShortestSufficient stats pod C k →
        EvictsInOrder client.evictOutcome (C.take k)
          (attemptPreemptionMulti srt client pod nodeName stats)) ∧
      (∀ p ∈ (attemptPreemptionMulti srt client pod nodeName stats).2,
        p.priority < pod.priority) ∧
      (attemptPreemptionMulti srt client pod nodeName stats).2.Subperm
        ((items.filter fun p => p.phase = .running).map runningPodOf) ∧
      (((items.filter fun p => p.phase = .running).map runningPodOf).Nodup →
        (attemptPreemptionMulti srt client pod nodeName stats).2.Nodup) := by
  refine ⟨fun e he => by simp [attemptPreemptionMulti, getRunningPods, he], fun items hitems => ?_⟩
  have h : getRunningPods (client.listPods nodeName) =
      .ok ((items.filter fun p => p.phase = .running).map runningPodOf) := by
    simp [getRunningPods, hitems]
  obtain ⟨hlow, hsub⟩ := attemptPreemptionMulti_calls srt client pod nodeName stats h
  dsimp only
  rw [attemptPreemptionMulti_of_ok srt client pod nodeName stats h,
    lowerPriority_of_listing] at hlow hsub ⊢
  refine ⟨fun hnone => ?_, fun k hk => ?_, hlow, hsub, fun hn => ?_⟩
  · rw [(accumulateVictims_nil_eq_none_iff _).mpr hnone]
  · rw [accumulateVictims_shortest hk]
    exact evictVictims_evictsInOrder _ _
  · obtain ⟨l, hp, hs⟩ := hsub
    exact hp.nodup_iff.mp (hn.sublist hs)

/-- A successful preemption evicted a sufficient set. -/
theorem attemptPreemptionMulti_sufficient
    (h : (attemptPreemptionMulti srt client pod nodeName stats).1 = true) :
    Sufficient stats pod (attemptPreemptionMulti srt client pod nodeName stats).2 := by
  cases hl : getRunningPods (client.listPods nodeName) with
  | error e => simp [attemptPreemptionMulti, hl] at h
  | ok running =>
    rw [attemptPreemptionMulti_of_ok srt client pod nodeName stats hl] at h ⊢
    split at h
    · cases h
    · rename_i V hV
      obtain ⟨k, -, -, rfl, hs, -⟩ := accumulateVictims_nil_eq_some hV
      rwa [evictVictims_of_true client.evictOutcome h]

end Attempt

/-- The node's stats once the victims `V` are gone: their CPU and memory freed. -/
def releaseVictims (stats : NodeStats) (V : List RunningPod) : NodeStats :=
  { stats with cpuFree := stats.cpuFree + freedCpu V, memFree := stats.memFree + freedMem V }

/-- A successful preemption frees enough CPU and memory for the demand, so with no disk or
network demand the released node passes the preemptive filter for every `alpha ≥ 1`. -/
theorem attemptPreemptionMulti_admits_hard {srt : PrioritySort} {client : Client}
    {pod : PodRequest} {nodeName : String} {stats : NodeStats} {V : List RunningPod}
    (h : attemptPreemptionMulti srt client pod nodeName stats = (true, V))
    (hio : pod.diskRead = 0 ∧ pod.diskWrite = 0 ∧ pod.netUp = 0 ∧ pod.netDown = 0)
    (hcpu : 0 < stats.cpuTotal) (hmem : 0 < stats.memTotal) :
    Sufficient stats pod V ∧
      ∀ alpha, 1 ≤ alpha → canScheduleMulti pod (releaseVictims stats V) alpha = true := by
  have hs : Sufficient stats pod V := by
    simpa [h] using attemptPreemptionMulti_sufficient srt client pod nodeName stats (by simp [h])
  refine ⟨hs, fun alpha halpha => (canScheduleMulti_iff _ _ _).mpr ?_⟩
  obtain ⟨hdr, hdw, hnu, hnd⟩ := hio
  refine Resource.forall_iff.mpr ⟨?_, ?_, ?_, ?_, ?_, ?_⟩
  · exact admitsResource_of_le hcpu (by simpa [releaseVictims] using hs.1) halpha
  · exact admitsResource_of_le hmem (by simpa [releaseVictims] using hs.2) halpha
  all_goals exact (admitsResource_iff _ _ _ _).mpr (.inl (by simpa [PodRequest.demand]))

/-- Insertion sort by priority: one order `sort.Slice` may produce. -/
def insertionPrioritySort : PrioritySort where
  sort := List.insertionSort fun a b => a.priority ≤ b.priority
  perm := List.perm_insertionSort _
  sorted l := by
    haveI : IsTotal RunningPod fun a b => a.priority ≤ b.priority := ⟨fun _ _ => le_total _ _⟩
    haveI : IsTrans RunningPod fun a b => a.priority ≤ b.priority := ⟨fun _ _ _ => le_trans⟩
    exact List.sorted_insertionSort _ l

/-- A pod of one CPU at priority 1, asking nothing of disk or network. -/
def webPod : Pod :=
  ⟨"web", "default", .pending, [⟨"nginx", some 1000, none⟩], some 1, GoMap.empty, Pod.ioFinite_empty⟩

/-- A running pod of half a CPU at priority 0. -/
def batchPod : Pod :=
  ⟨"batch", "default", .running, [⟨"busybox", some 500, none⟩], some 0, GoMap.empty, Pod.ioFinite_empty⟩

/-- A node with 6 CPUs of which half a CPU is free, and room in every other dimension. -/
def busyNode : NodeStats := ⟨6, 0.5, 8, 4, 100, 50, 100, 50, 100, 50, 100, 50⟩

/-- Preempting the batch pod for the web pod evicts it and succeeds. -/
theorem attemptPreemptionMulti_busyNode :
    attemptPreemptionMulti insertionPrioritySort ⟨fun _ => .ok [batchPod], fun _ => .ok ()⟩
      (extractPodRequirements webPod) "node1" busyNode = (true, [runningPodOf batchPod]) := by
  norm_num [attemptPreemptionMulti, getRunningPods, lowerPriority, insertionPrioritySort,
    accumulateVictims, evictVictims, extractPodRequirements, runningPodOf, webPod, batchPod,
    busyNode, Pod.cpuCores, Pod.memRequest, Container.cpuCores, Container.memRequest]

/-- The web pod asks nothing of disk or network. -/
theorem extractPodRequirements_webPod_io :
    (extractPodRequirements webPod).diskRead = 0 ∧ (extractPodRequirements webPod).diskWrite = 0 ∧
      (extractPodRequirements webPod).netUp = 0 ∧ (extractPodRequirements webPod).netDown = 0 :=
  ⟨rfl, rfl, rfl, rfl⟩

/-- After preempting the batch pod the released busy node has exactly enough CPU, so the
filter passes from `alpha = 1` on. -/
theorem attemptPreemptionMulti_admits_hard_busyNode :
    attemptPreemptionMulti insertionPrioritySort ⟨fun _ => .ok [batchPod], fun _ => .ok ()⟩
        (extractPodRequirements webPod) "node1" busyNode = (true, [runningPodOf batchPod]) ∧
      ((extractPodRequirements webPod).diskRead = 0 ∧ (extractPodRequirements webPod).diskWrite = 0 ∧
        (extractPodRequirements webPod).netUp = 0 ∧ (extractPodRequirements webPod).netDown = 0) ∧
      0 < busyNode.cpuTotal ∧ 0 < busyNode.memTotal ∧
      (Sufficient busyNode (extractPodRequirements webPod) [runningPodOf batchPod] ∧
        ∀ alpha, 1 ≤ alpha → canScheduleMulti (extractPodRequirements webPod)
          (releaseVictims busyNode [runningPodOf batchPod]) alpha = true) :=
  ⟨attemptPreemptionMulti_busyNode, extractPodRequirements_webPod_io, by norm_num [busyNode],
    by norm_num [busyNode],
    attemptPreemptionMulti_admits_hard attemptPreemptionMulti_busyNode
      extractPodRequirements_webPod_io (by norm_num [busyNode]) (by norm_num [busyNode])⟩

/-- Preemption can evict pods whose removal still leaves the node failing the filter the
caller re-runs: at `alpha = 0.8` the released busy node is at full CPU utilisation. -/
theorem attemptPreemptionMulti_wasted_eviction :
    ¬∀ (srt : PrioritySort) (client : Client) (pod : PodRequest) (nodeName : String)
      (stats : NodeStats) (alpha : ℚ) (V : List RunningPod),
      pod.diskRead = 0 → pod.diskWrite = 0 → pod.netUp = 0 → pod.netDown = 0 →
      (∀ r, 0 ≤ stats.free r ∧ stats.free r ≤ stats.total r ∧ 0 < stats.total r) →
      0 ≤ alpha → alpha ≤ 1 →
      attemptPreemptionMulti srt client pod nodeName stats = (true, V) →
      canScheduleMulti pod (releaseVictims stats V) alpha = true := by
  intro H
  have hbounds : ∀ r, 0 ≤ busyNode.free r ∧ busyNode.free r ≤ busyNode.total r ∧
      0 < busyNode.total r :=
    Resource.forall_iff.mpr (by norm_num [busyNode, NodeStats.free, NodeStats.total])
  obtain ⟨hdr, hdw, hnu, hnd⟩ := extractPodRequirements_webPod_io
  have hadmit := H _ _ _ _ _ 0.8 _ hdr hdw hnu hnd hbounds (by norm_num) (by norm_num)
    attemptPreemptionMulti_busyNode
  revert hadmit
  norm_num [canScheduleMulti, admitsResource, releaseVictims, freedCpu, freedMem, Resource.all,
    extractPodRequirements, runningPodOf, webPod, batchPod, busyNode, Pod.cpuCores,
    Pod.memRequest, Container.cpuCores, Container.memRequest, NodeStats.free, NodeStats.total,
    PodRequest.demand]

end MultiResource.Preemptive
