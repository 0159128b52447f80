import MultiResource.Models.Plugin.Filter
import MultiResource.Models.Extender.Extender

/-!
# What the two Filters do on a cache miss

The plugin's `Filter` refreshes a node missing from its cache with one synchronous
`getNodeStats` call, stores a successful result and decides on it; it reports missing stats
only when that call fails. The extender's `Filter` never refreshes: it admits exactly the
candidates whose cached stats pass `CanScheduleMulti` and files every other candidate under
its reason, a miss under the cache's own error.
-/

namespace MultiResource

namespace Plugin

/-- The rejection for insufficient resources is not the rejection for missing stats. -/
theorem insufficient_ne_failed (nodeName podNamespace name : String) :
    "Node " ++ nodeName ++ " doesn't have enough resources for pod " ++ podNamespace ++ "/" ++
      name ≠ "Failed to get node " ++ nodeName ++ " stats" := by
  intro h
  have := congrArg (fun s : String => s.data.head?) h
  simp at this

variable (promClient : Option QueryFn) (pod : Pod) (nodeName : String) {cache : GoMap NodeStats}

/-- On a miss a successful refresh is stored under the node and decides admission. -/
theorem filter_of_miss_ok (hmiss : cache.lookup nodeName = none) {s : NodeStats}
    (hs : getNodeStats promClient nodeName = .ok s) :
    (filter promClient pod nodeName cache).2 = cache.insert nodeName s ∧
      ((filter promClient pod nodeName cache).1 = .success ↔
        canScheduleMulti (extractPodRequirements pod) s = true) := by
  simp only [filter, statsOrRefresh, hmiss, hs]
  split_ifs with h <;> simp [h]

/-- On a miss a failed refresh rejects the node for missing stats and leaves the cache. -/
theorem filter_of_miss_error (hmiss : cache.lookup nodeName = none) {e : String}
    (he : getNodeStats promClient nodeName = .error e) :
    filter promClient pod nodeName cache =
      (.unschedulable ("Failed to get node " ++ nodeName ++ " stats"), cache) := by
  simp only [filter, statsOrRefresh, hmiss, he]

/-- The plugin rejects a node for missing stats exactly when it is not cached and its
refresh fails. -/
theorem filter_failed_iff :
    (filter promClient pod nodeName cache).1 =
        .unschedulable ("Failed to get node " ++ nodeName ++ " stats") ↔
      cache.lookup nodeName = none ∧ ∃ e, getNodeStats promClient nodeName = .error e := by
  have hne := insufficient_ne_failed nodeName pod.podNamespace pod.name
  unfold filter statsOrRefresh
  cases hl : cache.lookup nodeName with
  | some s =>
    dsimp only
    split_ifs <;> simp [hne]
  | none =>
    cases hg : getNodeStats promClient nodeName with
    | error e => simp
    | ok s =>
      dsimp only
      split_ifs <;> simp [hne]

end Plugin

namespace Extender

/-- Whether `Filter` admits a node, reading only the cache. -/
def admitted (e : Config) (cache : GoMap NodeStats) (pod : Pod) (nodeName : String) : Bool :=
  match getNodeStatsFromCache cache nodeName with
  | .ok stats => canScheduleMulti (extractPodRequirements pod) stats e.alpha
  | .error _ => false

/-- The reason `Filter` records for a node it does not admit. -/
def rejection (cache : GoMap NodeStats) (nodeName : String) : String :=
  match getNodeStatsFromCache cache nodeName with
  | .ok _ => "insufficient resources"
  | .error err => "error retrieving stats: " ++ err

variable (e : Config) (cache : GoMap NodeStats) (pod : Pod)

/-- One turn of `Filter`'s loop: the node joins the admitted list or the failed map. -/
theorem filterNode_spec (r : FilterResult) (nodeName : String) :
    (filterNode e cache pod r nodeName).nodes =
        r.nodes ++ (if admitted e cache pod nodeName then [nodeName] else []) ∧
      ∀ k, (filterNode e cache pod r nodeName).failedNodes.lookup k =
        if k = nodeName ∧ admitted e cache pod nodeName = false
        then some (rejection cache nodeName) else r.failedNodes.lookup k := by
  unfold filterNode admitted rejection
  cases h : getNodeStatsFromCache cache nodeName with
  | error err =>
    refine ⟨by simp, fun k => ?_⟩
    by_cases hk : k = nodeName
    · subst hk
      simp
    · simp [hk, Ne.symm hk]
  | ok stats =>
    by_cases ha : canScheduleMulti (extractPodRequirements pod) stats e.alpha = true
    · simp [ha]
    · refine ⟨by simp [ha], fun k => ?_⟩
      by_cases hk : k = nodeName
      · subst hk
        simp [ha]
      · simp [hk, Ne.symm hk, ha]

/-- The whole loop: the admitted candidates in order, and every other candidate with its
reason. -/
theorem foldl_filterNode_spec (nodes : List String) (r : FilterResult) :
    (nodes.foldl (filterNode e cache pod) r).nodes =
        r.nodes ++ nodes.filter (admitted e cache pod) ∧
      ∀ k, (nodes.foldl (filterNode e cache pod) r).failedNodes.lookup k =
        if k ∈ nodes ∧ admitted e cache pod k = false
        then some (rejection cache k) else r.failedNodes.lookup k := by
  induction nodes generalizing r with
  | nil => simp
  | cons n ns ih =>
    obtain ⟨hn, hf⟩ := filterNode_spec e cache pod r n
    obtain ⟨ihn, ihf⟩ := ih (filterNode e cache pod r n)
    refine ⟨by rw [List.foldl_cons, ihn, hn, List.filter_cons]; split_ifs <;> simp, fun k => ?_⟩
    rw [List.foldl_cons, ihf, hf]
    by_cases hk : k = n
    · subst hk
      by_cases ha : admitted e cache pod k <;> simp [ha]
    · simp [hk]

/-- `Filter` admits exactly the candidates whose cached stats pass, and records every other
candidate with its reason. -/
theorem filter_spec (nodes : List String) :
    (filter e cache pod nodes).nodes = nodes.filter (admitted e cache pod) ∧
      ∀ k, (filter e cache pod nodes).failedNodes.lookup k =
        if k ∈ nodes ∧ admitted e cache pod k = false then some (rejection cache k) else none := by
  simpa using foldl_filterNode_spec e cache pod nodes ⟨[], GoMap.empty⟩

/-- A candidate missing from the cache is rejected under the cache's own error, with no
refresh. -/
theorem filter_of_miss (nodes : List String) {nodeName : String} (hn : nodeName ∈ nodes)
    (hmiss : cache.lookup nodeName = none) :
    nodeName ∉ (filter e cache pod nodes).nodes ∧
      (filter e cache pod nodes).failedNodes.lookup nodeName =
        some ("error retrieving stats: node stats not available for " ++ nodeName) := by
  have hadm : admitted e cache pod nodeName = false := by
    simp [admitted, getNodeStatsFromCache, hmiss]
  obtain ⟨hnodes, hfailed⟩ := filter_spec e cache pod nodes
  refine ⟨by simp [hnodes, hadm], ?_⟩
  rw [hfailed, if_pos ⟨hn, hadm⟩]
  simp [rejection, getNodeStatsFromCache, hmiss, ← String.append_assoc]

end Extender

/-- A pod with no containers and no annotations. -/
def barePod : Pod := ⟨"web", "default", .pending, [], none, GoMap.empty, Pod.ioFinite_empty⟩

/-- The extender does not refresh on a miss: with an empty cache its `Filter` rejects a bare
pod's only candidate, though the stats `GetNodeStats` returns for it, even with every query
failing, admit the pod. -/
theorem filter_miss_not_refreshed :
    ¬ ∀ (e : Extender.Config) (cache : GoMap NodeStats) (pod : Pod) (nodeName : String)
      (query : QueryFn), cache.lookup nodeName = none →
      ((Extender.filter e cache pod [nodeName]).nodes = [nodeName] ↔
        Extender.canScheduleMulti (Extender.extractPodRequirements pod)
          (Extender.getNodeStats query nodeName) e.alpha = true) := by
  intro h
  have hadm : Extender.canScheduleMulti (Extender.extractPodRequirements barePod)
      (Extender.getNodeStats (fun _ => .error "unavailable") "n") 0.5 = true := by
    simp [Extender.canScheduleMulti, Extender.extractPodRequirements,
      Extender.estimateIORequirements, parseResourceAnnotation_of_lookup_none, barePod,
      Pod.cpuCores, Pod.memRequest, Extender.getNodeStats, Extender.cpuStats, Extender.memoryOr,
      Extender.rateCapacity]
    norm_num
  have hnodes := (h ⟨0.5, 100⟩ GoMap.empty barePod "n" _ rfl).mpr hadm
  exact (Extender.filter_of_miss ⟨0.5, 100⟩ GoMap.empty barePod ["n"] (.head _) rfl).1
    (by rw [hnodes]; exact .head _)

/-- What the two Filters do with a node missing from the cache. The plugin refreshes it:
a successful `getNodeStats` is stored and the node passes iff `canScheduleMulti` holds on it,
a failed one rejects it for missing stats with the cache unchanged, and that rejection happens
exactly on a miss whose refresh fails. The extender does not refresh: the node is rejected
under `error retrieving stats: node stats not available for <node>`. -/
theorem filters_on_miss :
    (∀ promClient pod nodeName (cache : GoMap NodeStats), cache.lookup nodeName = none →
      (∀ s, Plugin.getNodeStats promClient nodeName = .ok s →
        (Plugin.filter promClient pod nodeName cache).2 = cache.insert nodeName s ∧
        ((Plugin.filter promClient pod nodeName cache).1 = .success ↔
          Plugin.canScheduleMulti (Plugin.extractPodRequirements pod) s = true)) ∧
      (∀ e, Plugin.getNodeStats promClient nodeName = .error e →
        Plugin.filter promClient pod nodeName cache =
          (.unschedulable ("Failed to get node " ++ nodeName ++ " stats"), cache))) ∧
    (∀ promClient pod nodeName (cache : GoMap NodeStats),
      (Plugin.filter promClient pod nodeName cache).1 =
          .unschedulable ("Failed to get node " ++ nodeName ++ " stats") ↔
        cache.lookup nodeName = none ∧ ∃ e, Plugin.getNodeStats promClient nodeName = .error e) ∧
    (∀ e cache pod nodes nodeName, nodeName ∈ nodes → cache.lookup nodeName = none →
      nodeName ∉ (Extender.filter e cache pod nodes).nodes ∧
      (Extender.filter e cache pod nodes).failedNodes.lookup nodeName =
        some ("error retrieving stats: node stats not available for " ++ nodeName)) :=
  ⟨fun promClient pod nodeName _ hmiss =>
      ⟨fun _ hs => Plugin.filter_of_miss_ok promClient pod nodeName hmiss hs,
        fun _ he => Plugin.filter_of_miss_error promClient pod nodeName hmiss he⟩,
    fun promClient pod nodeName _ => Plugin.filter_failed_iff promClient pod nodeName,
    fun e cache pod nodes _ hn hmiss => Extender.filter_of_miss e cache pod nodes hn hmiss⟩

end MultiResource
