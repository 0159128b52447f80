import MultiResource.Correctness.CacheMiss
import MultiResource.Correctness.StatsBounds

/-!
# What the node-stats caches hold over whole runs

The extender's cache learns node names only from its refreshes: the entry of a node is what
the last refresh whose CPU query reported an instance with that host part wrote last for it,
so `Filter`, which files every candidate either as passing or under one of two reasons, can
admit no other node. The plugin's `Filter` and `Score` write a node only on a
miss: an entry, once cached, changes only at a periodic refresh.
-/

namespace MultiResource

namespace Extender

/-- The hosts a refresh writes: the host part of each instance its CPU query returns. -/
def reportedHosts (prom : ℕ → QueryFn) : List String :=
  match prom 0 cpuQuery with
  | .error _ => []
  | .ok cpuMetrics => cpuMetrics.entries.map fun inst => hostPart inst.1

/-- The stats the last write of `n` in `ws` stores, if `ws` writes `n`. -/
def lastWrite (ws : List (String × NodeStats)) (n : String) : Option NodeStats :=
  (ws.reverse.find? fun w => w.1 = n).map Prod.snd

/-- A later write of `n` overrides an earlier one. -/
theorem lastWrite_cons (w : String × NodeStats) (ws : List (String × NodeStats)) (n : String) :
    lastWrite (w :: ws) n = (lastWrite ws n).or (if w.1 = n then some w.2 else none) := by
  unfold lastWrite
  rw [List.reverse_cons, List.find?_append, Option.map_or']
  by_cases hw : w.1 = n <;> simp [hw]

/-- The last write of `n` is one of the writes. -/
theorem mem_of_lastWrite {ws : List (String × NodeStats)} {n : String} {s : NodeStats}
    (h : lastWrite ws n = some s) : (n, s) ∈ ws := by
  obtain ⟨w, hw, rfl⟩ := Option.map_eq_some'.mp h
  have hn : w.1 = n := by simpa using List.find?_some hw
  exact hn ▸ List.mem_reverse.mp (List.mem_of_find?_eq_some hw)

/-- Writes leave each key at its last write, and every key they do not write as it was. -/
theorem applyWrites_lookup (cache : GoMap NodeStats) (ws : List (String × NodeStats))
    (n : String) : (applyWrites cache ws).lookup n = (lastWrite ws n).or (cache.lookup n) := by
  induction ws generalizing cache with
  | nil => rfl
  | cons w ws ih =>
    rw [applyWrites, List.foldl_cons, ← applyWrites, ih, GoMap.lookup_insert, lastWrite_cons,
      Option.or_assoc]
    by_cases hw : w.1 = n <;> simp [hw]

/-- A refresh is its list of writes. -/
theorem updateAllNodeStats_eq_applyWrites (prom : ℕ → QueryFn) (cache : GoMap NodeStats) :
    updateAllNodeStats prom cache = applyWrites cache (refreshWrites prom) := by
  unfold updateAllNodeStats refreshWrites applyWrites
  cases prom 0 cpuQuery <;> simp [List.foldl_map]

/-- A refresh writes each reported host with the stats one of its `GetNodeStats` calls read. -/
theorem mem_refreshWrites {prom : ℕ → QueryFn} {w : String × NodeStats}
    (h : w ∈ refreshWrites prom) :
    w.1 ∈ reportedHosts prom ∧ ∃ i, w.2 = getNodeStats (prom (i + 1)) w.1 := by
  unfold refreshWrites at h
  unfold reportedHosts
  split at h
  · cases h
  · rename_i cpuMetrics hq
    obtain ⟨inst, hinst, rfl⟩ := List.mem_map.mp h
    refine ⟨?_, inst.1, rfl⟩
    simp only [hq]
    exact List.mem_map.mpr ⟨inst.2, List.enum_map_snd cpuMetrics.entries ▸
      List.mem_map_of_mem _ hinst, rfl⟩

/-- The hosts a refresh writes, in order. -/
theorem refreshWrites_hosts (prom : ℕ → QueryFn) :
    (refreshWrites prom).map Prod.fst = reportedHosts prom := by
  unfold refreshWrites reportedHosts
  cases prom 0 cpuQuery with
  | error _ => rfl
  | ok cpuMetrics =>
    dsimp only
    rw [List.map_map]
    conv_rhs => rw [← List.enum_map_snd cpuMetrics.entries, List.map_map]
    rfl

/-- One refresh: a reported host gets the stats of its last write, every other entry is kept. -/
theorem updateAllNodeStats_lookup (prom : ℕ → QueryFn) (cache : GoMap NodeStats) (n : String) :
    (updateAllNodeStats prom cache).lookup n =
      (lastWrite (refreshWrites prom) n).or (cache.lookup n) := by
  rw [updateAllNodeStats_eq_applyWrites, applyWrites_lookup]

/-- A run of refreshes: the last refresh that reported a host decides its entry. -/
theorem runCache_lookup (refreshes : List (ℕ → QueryFn)) (cache : GoMap NodeStats) (n : String) :
    (runCache cache refreshes).lookup n =
      (refreshes.reverse.findSome? fun prom => lastWrite (refreshWrites prom) n).or
        (cache.lookup n) := by
  induction refreshes generalizing cache with
  | nil => rfl
  | cons prom proms ih =>
    rw [runCache_cons, ih, updateAllNodeStats_lookup, List.reverse_cons, List.findSome?_append,
      Option.or_assoc]
    cases h : lastWrite (refreshWrites prom) n <;> simp [List.findSome?, h]

/-- After any run of periodic refreshes from the empty cache, the extender's entry for a node
is what the last refresh reporting its host wrote last for it: the stats one of that refresh's
`GetNodeStats` calls read for the node. So `Filter` admits only hosts that some refresh
reported. -/
theorem extender_cache_learns_from_refreshes (refreshes : List (ℕ → QueryFn)) (n : String) :
    (runCache GoMap.empty refreshes).lookup n =
        refreshes.reverse.findSome? (fun prom => lastWrite (refreshWrites prom) n) ∧
      (∀ s, (runCache GoMap.empty refreshes).lookup n = some s →
        ∃ prom ∈ refreshes, n ∈ reportedHosts prom ∧ ∃ i, s = getNodeStats (prom (i + 1)) n) ∧
      ∀ (e : Config) (pod : Pod) (nodes : List String),
        n ∈ (filter e (runCache GoMap.empty refreshes) pod nodes).nodes →
          ∃ prom ∈ refreshes, n ∈ reportedHosts prom := by
  have hlookup : (runCache GoMap.empty refreshes).lookup n =
      refreshes.reverse.findSome? (fun prom => lastWrite (refreshWrites prom) n) := by
    rw [runCache_lookup, GoMap.lookup_empty, Option.or_none]
  have hsource : ∀ s, (runCache GoMap.empty refreshes).lookup n = some s →
      ∃ prom ∈ refreshes, n ∈ reportedHosts prom ∧ ∃ i, s = getNodeStats (prom (i + 1)) n := by
    intro s hs
    rw [hlookup] at hs
    obtain ⟨prom, hmem, hlast⟩ := List.exists_of_findSome?_eq_some hs
    obtain ⟨hhost, hstats⟩ := mem_refreshWrites (mem_of_lastWrite hlast)
    exact ⟨prom, List.mem_reverse.mp hmem, hhost, hstats⟩
  refine ⟨hlookup, hsource, fun e pod nodes hn => ?_⟩
  rw [(filter_spec e _ pod nodes).1, List.mem_filter] at hn
  cases hs : (runCache GoMap.empty refreshes).lookup n with
  | none => simp [admitted, getNodeStatsFromCache, hs] at hn
  | some s =>
    obtain ⟨prom, hmem, hhost, -⟩ := hsource s hs
    exact ⟨prom, hmem, hhost⟩

/-- `Filter` accounts for every candidate once, whatever the cache holds: the passing nodes are
candidates in candidate order, a candidate passes exactly when `failedNodes` has no entry for it,
`failedNodes` names no other node, and each entry is `insufficient resources` for a cached node
or `error retrieving stats: node stats not available for <node>` for one not cached. -/
theorem filter_accounts_for_each_candidate (e : Config) (cache : GoMap NodeStats) (pod : Pod)
    (nodes : List String) :
    (filter e cache pod nodes).nodes.Sublist nodes ∧
      ∀ n, (n ∈ (filter e cache pod nodes).nodes ↔
          n ∈ nodes ∧ (filter e cache pod nodes).failedNodes.lookup n = none) ∧
        ((filter e cache pod nodes).failedNodes.lookup n = none ∨ n ∈ nodes) ∧
        ∀ reason, (filter e cache pod nodes).failedNodes.lookup n = some reason →
          reason = if cache.lookup n = none
            then "error retrieving stats: node stats not available for " ++ n
            else "insufficient resources" := by
  obtain ⟨hnodes, hfailed⟩ := filter_spec e cache pod nodes
  refine ⟨hnodes ▸ List.filter_sublist _, fun n => ⟨?_, ?_, fun reason h => ?_⟩⟩
  · rw [hnodes, List.mem_filter, hfailed]
    by_cases hadm : admitted e cache pod n <;> simp [hadm]
  · rw [hfailed]
    split_ifs with h
    · exact .inr h.1
    · exact .inl rfl
  · rw [hfailed] at h
    split_ifs at h with hrej
    cases h
    unfold rejection getNodeStatsFromCache
    cases hc : cache.lookup n <;> simp [← String.append_assoc]

end Extender

namespace Plugin

/-- Whether an event is the periodic refresh rather than a `Filter` or `Score` call. -/
def CacheEvent.isRefresh : CacheEvent → Bool
  | .updateAll _ _ => true
  | .filter _ _ _ => false
  | .score _ _ _ _ => false

/-- A lookup-or-refresh keeps every entry already cached. -/
theorem statsOrRefresh_lookup_of_cached {promClient : Option QueryFn} {nodeName n : String}
    {cache : GoMap NodeStats} {s : NodeStats} (hs : cache.lookup n = some s) :
    (statsOrRefresh promClient nodeName cache).2.lookup n = some s := by
  unfold statsOrRefresh
  split
  · exact hs
  · rename_i hmiss
    split
    · exact hs
    · have hne : nodeName ≠ n := fun h => by rw [h, hs] at hmiss; cases hmiss
      rw [GoMap.lookup_insert, if_neg hne, hs]

/-- Between two periodic refreshes the plugin's cache keeps every entry: any run of `Filter`
and `Score` calls, for any pods and nodes and whatever Prometheus answers, leaves a cached
node's stats as they were, so its decisions for that node use stats fetched earlier. -/
theorem plugin_cache_never_refreshed_on_hit (events : List CacheEvent)
    (hev : ∀ ev ∈ events, ev.isRefresh = false) (cache : GoMap NodeStats) (n : String)
    (s : NodeStats) (hs : cache.lookup n = some s) : (runCache cache events).lookup n = some s := by
  induction events generalizing cache with
  | nil => exact hs
  | cons ev evs ih =>
    rw [runCache_cons]
    refine ih (fun e he => hev e (List.mem_cons_of_mem _ he)) _ ?_
    cases ev with
    | filter c pod nodeName =>
      rw [CacheEvent.apply, filter_snd]
      exact statsOrRefresh_lookup_of_cached hs
    | score p c pod nodeName =>
      rw [CacheEvent.apply, score_snd]
      exact statsOrRefresh_lookup_of_cached hs
    | updateAll c nodes => cases hev _ (List.mem_cons_self _ _)

/-- A `Filter` and a `Score` call for a node cached as all zeros, with Prometheus uninitialised,
keep the cached zeros. -/
theorem plugin_cache_never_refreshed_on_hit_zero :
    (∀ ev ∈ [CacheEvent.filter none barePod "node1", .score new none barePod "node1"],
        ev.isRefresh = false) ∧
      (GoMap.empty.insert "node1" NodeStats.zero).lookup "node1" = some NodeStats.zero ∧
      (runCache (GoMap.empty.insert "node1" NodeStats.zero)
        [.filter none barePod "node1", .score new none barePod "node1"]).lookup "node1" =
          some NodeStats.zero :=
  have hev : ∀ ev ∈ [CacheEvent.filter none barePod "node1", .score new none barePod "node1"],
      ev.isRefresh = false := by simp [CacheEvent.isRefresh]
  have hs : (GoMap.empty.insert "node1" NodeStats.zero).lookup "node1" = some NodeStats.zero := by
    simp
  ⟨hev, hs, plugin_cache_never_refreshed_on_hit _ hev _ _ _ hs⟩

end Plugin

end MultiResource
