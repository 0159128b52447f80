import MultiResource.Correctness.CacheRuns

/-!
# `Filter` beside a refresh

The extender's updater writes the cache one host at a time under the write lock, and `Filter`
reads one candidate at a time under the read lock, so a `Filter` that runs while a refresh is
under way sees some of the refresh's writes and not others. Whatever the interleaving, the
refresh ends with the entries it would have reached alone, and `Filter` decides each candidate
on the cache as some prefix of the refresh's writes has left it, later candidates on longer
prefixes. When the refresh writes each host once, that is the cache before the refresh or the
cache after it, and different candidates may see different ones.
-/

namespace MultiResource.Extender

/-- Every entry of `c` is the one `old` has or the one `new` has. -/
def Between (old new c : GoMap NodeStats) : Prop :=
  ∀ n, c.lookup n = old.lookup n ∨ c.lookup n = new.lookup n

/-- A write of an entry `new` has keeps a cache between `old` and `new`. -/
theorem Between.insert {old new c : GoMap NodeStats} {host : String} {stats : NodeStats}
    (h : Between old new c) (hnew : new.lookup host = some stats) :
    Between old new (c.insert host stats) := fun n => by
  rw [GoMap.lookup_insert]
  split_ifs with hn
  · exact .inr (hn ▸ hnew.symm)
  · exact h n

/-- `Filter`'s turn for a candidate reads only the candidate's entry. -/
theorem filterNode_congr {e : Config} {c c' : GoMap NodeStats} {pod : Pod} {n : String}
    (h : c.lookup n = c'.lookup n) (r : FilterResult) :
    filterNode e c pod r n = filterNode e c' pod r n := by
  simp only [filterNode, getNodeStatsFromCache, h]

/-- The reads leave the cache alone: after the accesses it holds the writes, in order. -/
theorem filterDuring_fst (e : Config) (pod : Pod) (as : List Access) (cache : GoMap NodeStats)
    (r : FilterResult) :
    (filterDuring e pod as cache r).1 = applyWrites cache (as.filterMap Access.written) := by
  induction as generalizing cache r with
  | nil => rfl
  | cons a as ih =>
    cases a with
    | write host stats => exact ih _ r
    | read node => exact ih cache _

/-- The run lemma for the reads: each candidate is decided on the cache as a prefix of the
writes has left it, and the prefixes grow along the run. -/
theorem filterDuring_reads_prefix (e : Config) (pod : Pod) (as : List Access)
    (cache : GoMap NodeStats) (r : FilterResult) :
    ∃ ks : List ℕ, ks.length = (as.filterMap Access.readNode).length ∧ ks.Pairwise (· ≤ ·) ∧
      (filterDuring e pod as cache r).2 =
        ((as.filterMap Access.readNode).zip ks).foldl (fun r nk =>
          filterNode e (applyWrites cache ((as.filterMap Access.written).take nk.2)) pod r nk.1) r := by
  induction as generalizing cache r with
  | nil => exact ⟨[], rfl, List.Pairwise.nil, rfl⟩
  | cons a as ih =>
    cases a with
    | write host stats =>
      obtain ⟨ks, hlen, hsorted, hrest⟩ := ih (cache.insert host stats) r
      refine ⟨ks.map (· + 1), by simpa [Access.readNode] using hlen,
        List.pairwise_map.mpr (hsorted.imp Nat.succ_le_succ), ?_⟩
      simp only [filterDuring, List.filterMap_cons, Access.readNode, Access.written,
        List.zip_map_right, List.foldl_map, hrest]
      rfl
    | read node =>
      obtain ⟨ks, hlen, hsorted, hrest⟩ := ih cache (filterNode e cache pod r node)
      refine ⟨0 :: ks, by simp [Access.readNode, hlen],
        List.pairwise_cons.mpr ⟨fun _ _ => Nat.zero_le _, hsorted⟩, ?_⟩
      simp only [filterDuring, List.filterMap_cons, Access.readNode, Access.written,
        List.zip_cons_cons, List.foldl_cons, List.take_zero]
      exact hrest

/-- The run lemma for a refresh that writes entries of `new` only: from a cache between `old`
and `new`, each candidate is decided on `old` or on `new`. -/
theorem filterDuring_reads_between {e : Config} {pod : Pod} {old new : GoMap NodeStats}
    (as : List Access) (hw : ∀ host stats, Access.write host stats ∈ as → new.lookup host = some stats)
    (cache : GoMap NodeStats) (hc : Between old new cache) (r : FilterResult) :
    ∃ fresh : List Bool, fresh.length = (as.filterMap Access.readNode).length ∧
      (filterDuring e pod as cache r).2 =
        ((as.filterMap Access.readNode).zip fresh).foldl
          (fun r nb => filterNode e (if nb.2 then new else old) pod r nb.1) r := by
  induction as generalizing cache r with
  | nil => exact ⟨[], rfl, rfl⟩
  | cons a as ih =>
    have hw' : ∀ host stats, Access.write host stats ∈ as → new.lookup host = some stats :=
      fun host stats h => hw host stats (List.mem_cons_of_mem _ h)
    cases a with
    | write host stats =>
      exact ih hw' _ (hc.insert (hw host stats (List.mem_cons_self _ _))) r
    | read node =>
      have hread : ∃ b : Bool, filterNode e cache pod r node =
          filterNode e (if b then new else old) pod r node := by
        rcases hc node with h | h
        · exact ⟨false, filterNode_congr h r⟩
        · exact ⟨true, filterNode_congr h r⟩
      obtain ⟨b, hb⟩ := hread
      obtain ⟨fresh, hlen, hrest⟩ := ih hw' cache hc (filterNode e cache pod r node)
      refine ⟨b :: fresh, by simp [Access.readNode, hlen], ?_⟩
      simp only [filterDuring, List.filterMap_cons, Access.readNode, List.zip_cons_cons,
        List.foldl_cons, if_true, if_false]
      rw [hrest, hb]

/-- Once each host is written once, every write is the entry the writes end with. -/
theorem lastWrite_of_nodup {ws : List (String × NodeStats)} (hws : (ws.map Prod.fst).Nodup)
    {w : String × NodeStats} (hw : w ∈ ws) : lastWrite ws w.1 = some w.2 := by
  induction ws with
  | nil => cases hw
  | cons w' ws ih =>
    rw [List.map_cons, List.nodup_cons] at hws
    rw [lastWrite_cons]
    rcases List.mem_cons.mp hw with rfl | hmem
    · have hnone : lastWrite ws w.1 = none := by
        simp only [lastWrite, Option.map_eq_none', List.find?_eq_none, List.mem_reverse,
          decide_eq_true_eq]
        exact fun x hx hxw => hws.1 (hxw ▸ List.mem_map_of_mem Prod.fst hx)
      simp [hnone]
    · rw [ih hws.2 hmem, Option.or_some]

/-- A `Filter` run while a refresh is under way, its reads interleaved in any way with the
refresh's writes (which the updater makes in its own order), leaves the refresh's outcome
unchanged, and decides each candidate on the cache as some prefix of those writes has left
it, later candidates on longer prefixes. When the refresh reports each host once, each
candidate is decided as `Filter` decides it on the cache before the refresh or on the cache
after it. -/
theorem filter_during_refresh_sees_old_or_new (e : Config) (prom : ℕ → QueryFn)
    (cache : GoMap NodeStats) (pod : Pod) (nodes : List String) (as : List Access)
    (hw : as.filterMap Access.written = refreshWrites prom)
    (hr : as.filterMap Access.readNode = nodes) :
    (filterDuring e pod as cache ⟨[], GoMap.empty⟩).1 = updateAllNodeStats prom cache ∧
      (∃ ks : List ℕ, ks.length = nodes.length ∧ ks.Pairwise (· ≤ ·) ∧
        (filterDuring e pod as cache ⟨[], GoMap.empty⟩).2 =
          (nodes.zip ks).foldl (fun r nk =>
            filterNode e (applyWrites cache ((refreshWrites prom).take nk.2)) pod r nk.1)
            ⟨[], GoMap.empty⟩) ∧
      ((reportedHosts prom).Nodup →
        ∃ fresh : List Bool, fresh.length = nodes.length ∧
          (filterDuring e pod as cache ⟨[], GoMap.empty⟩).2 =
            (nodes.zip fresh).foldl (fun r nb =>
              filterNode e (if nb.2 then updateAllNodeStats prom cache else cache) pod r nb.1)
              ⟨[], GoMap.empty⟩) := by
  refine ⟨by rw [filterDuring_fst, hw, updateAllNodeStats_eq_applyWrites], ?_, fun hnodup => ?_⟩
  · obtain ⟨ks, hlen, hsorted, hreads⟩ := filterDuring_reads_prefix e pod as cache ⟨[], GoMap.empty⟩
    rw [hw, hr] at hreads
    exact ⟨ks, hr ▸ hlen, hsorted, hreads⟩
  · have hnew : ∀ host stats, Access.write host stats ∈ as →
        (updateAllNodeStats prom cache).lookup host = some stats := fun host stats h => by
      have hmem : (host, stats) ∈ refreshWrites prom := hw ▸ List.mem_filterMap.mpr ⟨_, h, rfl⟩
      rw [updateAllNodeStats_lookup,
        lastWrite_of_nodup ((refreshWrites_hosts prom).symm ▸ hnodup) hmem, Option.or_some]
    exact hr ▸ filterDuring_reads_between as hnew cache (fun _ => .inl rfl) _

/-- Prometheus reporting one instance, `node1:9100`, with the value 1 for every query. -/
def oneInstance : QueryFn := fun _ => .ok (GoMap.empty.insert "node1:9100" 1)

/-- A `Filter` of `node1` and `node2` that reads `node1` before the refresh's writes and `node2`
after them, Prometheus answering every call of the refresh alike. -/
def midRefresh : List Access :=
  .read "node1" :: (refreshWrites fun _ => oneInstance).map (fun w => .write w.1 w.2) ++
    [.read "node2"]

/-- The interleaving reads `node1` and `node2` around the refresh's one write, and the cache
ends as the refresh leaves it. -/
theorem filter_during_refresh_sees_old_or_new_midRefresh :
    (midRefresh.filterMap Access.written = refreshWrites fun _ => oneInstance) ∧
      midRefresh.filterMap Access.readNode = ["node1", "node2"] ∧
      (filterDuring ⟨0.8, 100⟩ barePod midRefresh GoMap.empty ⟨[], GoMap.empty⟩).1 =
        updateAllNodeStats (fun _ => oneInstance) GoMap.empty :=
  have hw : midRefresh.filterMap Access.written = refreshWrites fun _ => oneInstance := by
    simp [midRefresh, List.filterMap_append, List.filterMap_map, Function.comp_def,
      Access.written]
  have hr : midRefresh.filterMap Access.readNode = ["node1", "node2"] := by
    simp [midRefresh, List.filterMap_append, List.filterMap_map, Function.comp_def,
      Access.readNode]
  ⟨hw, hr, (filter_during_refresh_sees_old_or_new ⟨0.8, 100⟩ (fun _ => oneInstance) GoMap.empty
    barePod ["node1", "node2"] midRefresh hw hr).1⟩

end MultiResource.Extender
