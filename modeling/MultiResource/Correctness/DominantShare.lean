import MultiResource.Correctness.Admission
import MultiResource.Correctness.CacheMiss

/-!
# Dominant-share scoring

The extender, the preemptive scheduler and the scheduler of `k3s-direct-config.yaml` score a
node by `maxScore * (1 - share)`, clamped at zero and truncated, where the share is the
largest `demand / free` over the dimensions with demand; the preemptive scheduler gives the
midpoint instead when no dimension has demand, and a dimension with demand and nothing free
makes the share infinite and the score zero. The loop computing the share keeps a running
maximum. From that, on positive free capacities and non-negative demands, every score lies in
`[0, maxScore]`, never rises with a demand and never falls with a free capacity. A positive
extender score leaves every demand below its free capacity, so a node the extender's `Filter`
turns away for lack of resources gets zero from its `Prioritize`.
-/

namespace MultiResource

/-! ## The running maximum -/

/-- One turn of the dominant-share loop. -/
def shareStep (d : PodRequest) (s : NodeStats) (ds : ℚ) (r : Resource) : ℚ :=
  if d.demand r = 0 then ds
  else if d.demand r / s.free r > ds then d.demand r / s.free r else ds

/-- The dominant share is the loop of `shareStep` from zero. -/
theorem dominantShare_eq_foldl (d : PodRequest) (s : NodeStats) :
    dominantShare d s = Resource.all.foldl (shareStep d s) 0 := rfl

/-- One turn is at least the running value, at least the dimension's share when it has
demand, and one of the two. -/
theorem shareStep_spec (d : PodRequest) (s : NodeStats) (ds : ℚ) (r : Resource) :
    ds ≤ shareStep d s ds r ∧ (d.demand r ≠ 0 → d.demand r / s.free r ≤ shareStep d s ds r) ∧
      (shareStep d s ds r = ds ∨
        d.demand r ≠ 0 ∧ shareStep d s ds r = d.demand r / s.free r) := by
  unfold shareStep
  split_ifs with h0 hgt
  · exact ⟨le_rfl, fun h => absurd h0 h, .inl rfl⟩
  · exact ⟨hgt.le, fun _ => le_rfl, .inr ⟨h0, rfl⟩⟩
  · exact ⟨le_rfl, fun _ => not_lt.mp hgt, .inl rfl⟩

/-- The loop over any list of dimensions: at least its start, at least the share of every
demanded dimension it visits, and its start or one of those shares. -/
theorem foldl_shareStep_spec (d : PodRequest) (s : NodeStats) (l : List Resource) (a : ℚ) :
    a ≤ l.foldl (shareStep d s) a ∧
      (∀ r ∈ l, d.demand r ≠ 0 → d.demand r / s.free r ≤ l.foldl (shareStep d s) a) ∧
      (l.foldl (shareStep d s) a = a ∨
        ∃ r ∈ l, d.demand r ≠ 0 ∧ l.foldl (shareStep d s) a = d.demand r / s.free r) := by
  induction l generalizing a with
  | nil => simp
  | cons r rs ih =>
    obtain ⟨hle, hcover, hval⟩ := shareStep_spec d s a r
    obtain ⟨hle', hcover', hval'⟩ := ih (shareStep d s a r)
    simp only [List.foldl_cons, List.mem_cons, forall_eq_or_imp, exists_eq_or_imp]
    refine ⟨hle.trans hle', ⟨fun h => (hcover h).trans hle', hcover'⟩, ?_⟩
    rcases hval' with heq | hmem
    · rw [heq]
      exact hval.imp_right Or.inl
    · exact .inr (.inr hmem)

/-- The dominant share is non-negative, covers the share of every demanded dimension, and is
zero or one of those shares. -/
theorem dominantShare_spec (d : PodRequest) (s : NodeStats) :
    0 ≤ dominantShare d s ∧
      (∀ r, d.demand r ≠ 0 → d.demand r / s.free r ≤ dominantShare d s) ∧
      (dominantShare d s = 0 ∨
        ∃ r, d.demand r ≠ 0 ∧ dominantShare d s = d.demand r / s.free r) := by
  obtain ⟨h0, hcover, hval⟩ := foldl_shareStep_spec d s Resource.all 0
  rw [dominantShare_eq_foldl]
  exact ⟨h0, fun r => hcover r (Resource.mem_all r), hval.imp_right fun ⟨r, _, h⟩ => ⟨r, h⟩⟩

/-- One turn is monotone in the running value, and in the dimension's share wherever the
first pod has demand. -/
theorem shareStep_le {d1 d2 : PodRequest} {s1 s2 : NodeStats} {a b : ℚ} {r : Resource}
    (hab : a ≤ b)
    (h : d1.demand r ≠ 0 → d2.demand r ≠ 0 ∧ d1.demand r / s1.free r ≤ d2.demand r / s2.free r) :
    shareStep d1 s1 a r ≤ shareStep d2 s2 b r := by
  by_cases h1 : d1.demand r = 0
  · rw [show shareStep d1 s1 a r = a from if_pos h1]
    exact hab.trans (shareStep_spec d2 s2 b r).1
  · obtain ⟨h2, hx⟩ := h h1
    unfold shareStep
    simp only [h1, h2, if_false]
    split_ifs <;> linarith

/-- Where every demanded dimension of the first pod is demanded by the second with at least
the same share, the second's dominant share is at least the first's. -/
theorem dominantShare_le_of_shares {d1 d2 : PodRequest} {s1 s2 : NodeStats}
    (h : ∀ r, d1.demand r ≠ 0 →
      d2.demand r ≠ 0 ∧ d1.demand r / s1.free r ≤ d2.demand r / s2.free r) :
    dominantShare d1 s1 ≤ dominantShare d2 s2 := by
  rw [dominantShare_eq_foldl, dominantShare_eq_foldl]
  suffices ∀ (l : List Resource) (a b : ℚ), a ≤ b →
      l.foldl (shareStep d1 s1) a ≤ l.foldl (shareStep d2 s2) b from this _ 0 0 le_rfl
  intro l
  induction l with
  | nil => exact fun _ _ hab => hab
  | cons r rs ih => exact fun a b hab => ih _ _ (shareStep_le hab (h r))

variable {d : PodRequest} {s : NodeStats}

/-- Raising a positive demand raises the dominant share. -/
theorem dominantShare_le_withDemand {r : Resource} {x : ℚ} (hfree : 0 ≤ s.free r)
    (hpos : 0 < d.demand r) (hx : d.demand r ≤ x) :
    dominantShare d s ≤ dominantShare (d.withDemand r x) s := by
  refine dominantShare_le_of_shares fun r' hr' => ?_
  rw [PodRequest.demand_withDemand]
  split_ifs with hr
  · subst hr
    exact ⟨(hpos.trans_le hx).ne', div_le_div_of_nonneg_right hx hfree⟩
  · exact ⟨hr', le_rfl⟩

/-- Raising a positive free capacity lowers the dominant share of a non-negative demand. -/
theorem dominantShare_withFree_le {r : Resource} {x : ℚ} (hfree : 0 < s.free r)
    (hd : 0 ≤ d.demand r) (hx : s.free r ≤ x) :
    dominantShare d (s.withFree r x) ≤ dominantShare d s := by
  refine dominantShare_le_of_shares fun r' hr' => ⟨hr', ?_⟩
  rw [NodeStats.free_withFree]
  split_ifs with hr
  · subst hr
    exact div_le_div_of_nonneg_left hd hfree hx
  · exact le_rfl

/-- On positive free capacities and non-negative demands the share is zero exactly when no
dimension has demand. -/
theorem dominantShare_eq_zero_iff (hs : ∀ r, 0 < s.free r) (hd : ∀ r, 0 ≤ d.demand r) :
    dominantShare d s = 0 ↔ ∀ r, d.demand r = 0 := by
  obtain ⟨-, hcover, hval⟩ := dominantShare_spec d s
  refine ⟨fun h0 r => by_contra fun hr => ?_, fun hall => ?_⟩
  · have hshare : 0 < d.demand r / s.free r := div_pos ((hd r).lt_of_ne' hr) (hs r)
    linarith [hcover r hr]
  · rcases hval with h | ⟨r, hr, -⟩
    · exact h
    · exact absurd (hall r) hr

/-! ## From the share to the score -/

/-- The score the dominant-share scorers give a share: `maxScore * (1 - share)`, clamped at
zero and truncated. -/
def shareScore (maxScore : ℤ) (ds : ℚ) : ℤ :=
  let score : ℚ := maxScore - maxScore * ds
  truncToInt (if score < 0 then 0 else score)

/-- On positive free capacities no share is infinite. -/
theorem infiniteShare_of_free_pos (hs : ∀ r, 0 < s.free r) : infiniteShare d s = false :=
  infiniteShare_eq_false fun r _ => (hs r).ne'

/-- Raising a free capacity keeps every free capacity positive. -/
theorem free_pos_withFree (hs : ∀ r, 0 < s.free r) {r : Resource} {x : ℚ} (hx : s.free r ≤ x) :
    ∀ r', 0 < (s.withFree r x).free r' := fun r' => by
  rw [NodeStats.free_withFree]
  split_ifs with hr
  · exact (hs r).trans_le hx
  · exact hs r'

/-- The extender scores zero on an infinite share and the share otherwise. -/
theorem Extender.scoreMultiResource_eq_ite (d : PodRequest) (s : NodeStats) (maxScore : ℤ) :
    Extender.scoreMultiResource d s maxScore =
      if infiniteShare d s then 0 else shareScore maxScore (dominantShare d s) := rfl

/-- On positive free capacities the extender scores the share. -/
theorem Extender.scoreMultiResource_eq (hs : ∀ r, 0 < s.free r) (maxScore : ℤ) :
    Extender.scoreMultiResource d s maxScore = shareScore maxScore (dominantShare d s) := by
  rw [Extender.scoreMultiResource_eq_ite, infiniteShare_of_free_pos hs]
  rfl

/-- The scorer of `k3s-direct-config.yaml` is the extender's. -/
theorem DirectConfig.scoreMultiResource_eq_extender :
    DirectConfig.scoreMultiResource = Extender.scoreMultiResource := rfl

/-- On positive free capacities the preemptive scheduler scores the share, or gives the
midpoint when there is no demand. -/
theorem Preemptive.scoreMultiResource_eq (hs : ∀ r, 0 < s.free r) (maxScore : ℤ) :
    Preemptive.scoreMultiResource d s maxScore =
      if dominantShare d s = 0 then maxScore.tdiv 2
      else shareScore maxScore (dominantShare d s) := by
  show (if infiniteShare d s then 0 else _) = _
  rw [infiniteShare_of_free_pos hs]
  rfl

variable {maxScore : ℤ}

/-- A non-negative share scores in `[0, maxScore]`. -/
theorem shareScore_mem_Icc {ds : ℚ} (hm : 0 ≤ maxScore) (hds : 0 ≤ ds) :
    0 ≤ shareScore maxScore ds ∧ shareScore maxScore ds ≤ maxScore := by
  have hm' : (0 : ℚ) ≤ maxScore := by exact_mod_cast hm
  have hmds : 0 ≤ (maxScore : ℚ) * ds := mul_nonneg hm' hds
  unfold shareScore
  apply truncToInt_mem_Icc <;> split_ifs <;> linarith

/-- A larger share never scores higher. -/
theorem shareScore_anti {ds1 ds2 : ℚ} (hm : 0 ≤ maxScore) (h : ds1 ≤ ds2) :
    shareScore maxScore ds2 ≤ shareScore maxScore ds1 := by
  have hmul : (maxScore : ℚ) * ds1 ≤ maxScore * ds2 :=
    mul_le_mul_of_nonneg_left h (by exact_mod_cast hm)
  unfold shareScore
  apply truncToInt_mono (by split_ifs <;> linarith)
  split_ifs <;> linarith

/-- A clamped score is never negative. -/
theorem shareScore_nonneg (maxScore : ℤ) (ds : ℚ) : 0 ≤ shareScore maxScore ds :=
  truncToInt_nonneg (by split_ifs <;> linarith)

/-- A positive score leaves the share below one. -/
theorem share_lt_one_of_shareScore_pos {ds : ℚ} (hm : 0 < maxScore)
    (h : 0 < shareScore maxScore ds) : ds < 1 := by
  have hpos := pos_of_truncToInt_pos h
  split_ifs at hpos with hneg
  · exact absurd hpos (lt_irrefl 0)
  · by_contra hge
    have hmul : (maxScore : ℚ) ≤ maxScore * ds :=
      le_mul_of_one_le_right (by exact_mod_cast hm.le) (not_lt.mp hge)
    linarith

/-- Once a demanded dimension has nothing free the share is infinite, and a capacity that is
the same or positive wherever it differs keeps it so on less free capacity. -/
theorem infiniteShare_of_free_le {s1 s2 : NodeStats} (hle : ∀ r, s1.free r ≤ s2.free r)
    (hpos : ∀ r, s1.free r = s2.free r ∨ 0 < s1.free r) (h : infiniteShare d s2) :
    infiniteShare d s1 := by
  simp only [infiniteShare, List.any_eq_true, decide_eq_true_eq] at h ⊢
  obtain ⟨r, hr, hd, hfree⟩ := h
  refine ⟨r, hr, hd, ?_⟩
  rcases hpos r with heq | hpos1
  · rw [heq, hfree]
  · exact absurd ((hle r).trans hfree.le) (not_le.mpr hpos1)

/-- More free capacity, the same or positive wherever it differs, never lowers the extender's
score of a pod with non-negative demands. -/
theorem Extender.scoreMultiResource_le_of_free_le {s1 s2 : NodeStats} (hm : 0 ≤ maxScore)
    (hd : ∀ r, 0 ≤ d.demand r) (hle : ∀ r, s1.free r ≤ s2.free r)
    (hpos : ∀ r, s1.free r = s2.free r ∨ 0 < s1.free r) :
    Extender.scoreMultiResource d s1 maxScore ≤ Extender.scoreMultiResource d s2 maxScore := by
  rw [Extender.scoreMultiResource_eq_ite, Extender.scoreMultiResource_eq_ite]
  by_cases h1 : infiniteShare d s1
  · rw [if_pos h1]
    split_ifs
    exacts [le_rfl, shareScore_nonneg _ _]
  · rw [if_neg h1, if_neg (mt (infiniteShare_of_free_le hle hpos) h1)]
    refine shareScore_anti hm (dominantShare_le_of_shares fun r hr => ⟨hr, ?_⟩)
    rcases hpos r with heq | hpos1
    · rw [heq]
    · exact div_le_div_of_nonneg_left (hd r) hpos1 (hle r)

/-- The preemptive midpoint lies in `[0, maxScore]`. -/
theorem tdiv_two_mem_Icc (hm : 0 ≤ maxScore) : 0 ≤ maxScore.tdiv 2 ∧ maxScore.tdiv 2 ≤ maxScore := by
  rw [Int.tdiv_eq_ediv hm (by norm_num)]
  omega

/-! ## The scorers' contract -/

/-- A dominant-share scorer's contract at `(d, s)`: the score lies in `[0, maxScore]`, raising
a demanded dimension never raises it, and raising a free capacity never lowers it. -/
def ScoreMonotone (score : PodRequest → NodeStats → ℤ → ℤ) (maxScore : ℤ) (d : PodRequest)
    (s : NodeStats) : Prop :=
  (0 ≤ score d s maxScore ∧ score d s maxScore ≤ maxScore) ∧
    (∀ r x, d.demand r ≠ 0 → d.demand r ≤ x →
      score (d.withDemand r x) s maxScore ≤ score d s maxScore) ∧
    ∀ r x, s.free r ≤ x → score d s maxScore ≤ score d (s.withFree r x) maxScore

/-- The extender's scorer keeps the contract on positive free capacities and non-negative demands. -/
theorem Extender.scoreMonotone (hm : 0 ≤ maxScore) (hs : ∀ r, 0 < s.free r)
    (hd : ∀ r, 0 ≤ d.demand r) : ScoreMonotone Extender.scoreMultiResource maxScore d s := by
  refine ⟨?_, fun r x hr hx => ?_, fun r x hx => ?_⟩
  · rw [Extender.scoreMultiResource_eq hs]
    exact shareScore_mem_Icc hm (dominantShare_spec d s).1
  · rw [Extender.scoreMultiResource_eq hs, Extender.scoreMultiResource_eq hs]
    exact shareScore_anti hm (dominantShare_le_withDemand (hs r).le ((hd r).lt_of_ne' hr) hx)
  · rw [Extender.scoreMultiResource_eq hs, Extender.scoreMultiResource_eq (free_pos_withFree hs hx)]
    exact shareScore_anti hm (dominantShare_withFree_le (hs r) (hd r) hx)

/-- The direct-config scorer keeps the contract, being the extender's. -/
theorem DirectConfig.scoreMonotone (hm : 0 ≤ maxScore) (hs : ∀ r, 0 < s.free r)
    (hd : ∀ r, 0 ≤ d.demand r) : ScoreMonotone DirectConfig.scoreMultiResource maxScore d s := by
  rw [DirectConfig.scoreMultiResource_eq_extender]
  exact Extender.scoreMonotone hm hs hd

/-- The preemptive scorer keeps its branch under both changes: a raised demand keeps a
nonzero share nonzero, and a raised free capacity keeps the set of demanded dimensions. -/
theorem Preemptive.scoreMonotone (hm : 0 ≤ maxScore) (hs : ∀ r, 0 < s.free r)
    (hd : ∀ r, 0 ≤ d.demand r) : ScoreMonotone Preemptive.scoreMultiResource maxScore d s := by
  have hzero := dominantShare_eq_zero_iff hs hd
  refine ⟨?_, fun r x hr hx => ?_, fun r x hx => ?_⟩
  · rw [Preemptive.scoreMultiResource_eq hs]
    split_ifs
    · exact tdiv_two_mem_Icc hm
    · exact shareScore_mem_Icc hm (dominantShare_spec d s).1
  · have hle := dominantShare_le_withDemand (hs r).le ((hd r).lt_of_ne' hr) hx
    have h1 : dominantShare d s ≠ 0 := fun h => hr (hzero.mp h r)
    have h2 : dominantShare (d.withDemand r x) s ≠ 0 :=
      (((dominantShare_spec d s).1.lt_of_ne' h1).trans_le hle).ne'
    rw [Preemptive.scoreMultiResource_eq hs, Preemptive.scoreMultiResource_eq hs, if_neg h1,
      if_neg h2]
    exact shareScore_anti hm hle
  · have hs' := free_pos_withFree hs hx
    rw [Preemptive.scoreMultiResource_eq hs, Preemptive.scoreMultiResource_eq hs']
    have hiff : dominantShare d (s.withFree r x) = 0 ↔ dominantShare d s = 0 :=
      (dominantShare_eq_zero_iff hs' hd).trans hzero.symm
    by_cases h0 : dominantShare d s = 0
    · rw [if_pos h0, if_pos (hiff.mpr h0)]
    · rw [if_neg h0, if_neg (mt hiff.mp h0)]
      exact shareScore_anti hm (dominantShare_withFree_le (hs r) (hd r) hx)

/-- On positive free capacities and non-negative demands, each of the three dominant-share
scorers keeps its contract. -/
theorem dominantShare_scoring_monotone (maxScore : ℤ) (d : PodRequest) (s : NodeStats)
    (hm : 0 ≤ maxScore) (hs : ∀ r, 0 < s.free r) (hd : ∀ r, 0 ≤ d.demand r) :
    ScoreMonotone Extender.scoreMultiResource maxScore d s ∧
      ScoreMonotone Preemptive.scoreMultiResource maxScore d s ∧
      ScoreMonotone DirectConfig.scoreMultiResource maxScore d s :=
  ⟨Extender.scoreMonotone hm hs hd, Preemptive.scoreMonotone hm hs hd,
    DirectConfig.scoreMonotone hm hs hd⟩

/-- A node with room in every dimension and a pod asking for one core and one byte meet the
contract's hypotheses. -/
theorem dominantShare_scoring_monotone_roomyNode :
    (0 : ℤ) ≤ 100 ∧
      (∀ r, 0 < (⟨4, 3, 8, 6, 100, 50, 100, 50, 100, 50, 100, 50⟩ : NodeStats).free r) ∧
      (∀ r, 0 ≤ (⟨1, 1, 0, 0, 0, 0, 0⟩ : PodRequest).demand r) ∧
      (ScoreMonotone Extender.scoreMultiResource 100 ⟨1, 1, 0, 0, 0, 0, 0⟩
          ⟨4, 3, 8, 6, 100, 50, 100, 50, 100, 50, 100, 50⟩ ∧
        ScoreMonotone Preemptive.scoreMultiResource 100 ⟨1, 1, 0, 0, 0, 0, 0⟩
          ⟨4, 3, 8, 6, 100, 50, 100, 50, 100, 50, 100, 50⟩ ∧
        ScoreMonotone DirectConfig.scoreMultiResource 100 ⟨1, 1, 0, 0, 0, 0, 0⟩
          ⟨4, 3, 8, 6, 100, 50, 100, 50, 100, 50, 100, 50⟩) := by
  have hs : ∀ r, 0 < (⟨4, 3, 8, 6, 100, 50, 100, 50, 100, 50, 100, 50⟩ : NodeStats).free r :=
    Resource.forall_iff.mpr (by norm_num [NodeStats.free])
  have hd : ∀ r, 0 ≤ (⟨1, 1, 0, 0, 0, 0, 0⟩ : PodRequest).demand r :=
    Resource.forall_iff.mpr (by norm_num [PodRequest.demand])
  exact ⟨by norm_num, hs, hd, dominantShare_scoring_monotone 100 _ _ (by norm_num) hs hd⟩

/-! ## The extender's scorer against its filter -/

/-- A positive extender score leaves every dimension's demand within its free capacity: the
share is below one, so each demanded dimension asks for less than it has free. -/
theorem Extender.hardFit_of_score_pos (hm : 0 < maxScore) (hs : ∀ r, 0 < s.free r)
    (h : 0 < Extender.scoreMultiResource d s maxScore) : HardFit d s := by
  rw [Extender.scoreMultiResource_eq hs] at h
  have hlt := share_lt_one_of_shareScore_pos hm h
  intro r
  by_cases hr : d.demand r = 0
  · exact hr ▸ (hs r).le
  · have hshare : d.demand r / s.free r < 1 := ((dominantShare_spec d s).2.1 r hr).trans_lt hlt
    exact ((div_lt_one (hs r)).mp hshare).le

/-- A node `Filter` turns away for insufficient resources gets zero from `Prioritize`. -/
theorem Extender.prioritize_of_insufficient (e : Extender.Config) (cache : GoMap NodeStats)
    (pod : Pod) (nodes : List String) {n : String} {stats : NodeStats} (hm : 1 ≤ e.maxScore)
    (hcache : cache.lookup n = some stats) (hs : ∀ r, 0 < stats.free r)
    (hd : ∀ r, 0 ≤ (Extender.extractPodRequirements pod).demand r)
    (hfail : (Extender.filter e cache pod nodes).failedNodes.lookup n =
      some "insufficient resources") :
    (n, 0) ∈ Extender.prioritize e cache pod nodes := by
  rw [(Extender.filter_spec e cache pod nodes).2 n] at hfail
  split_ifs at hfail with hrej
  obtain ⟨hn, hadm⟩ := hrej
  have hreject : Extender.canScheduleMulti (Extender.extractPodRequirements pod) stats e.alpha
      = false := by
    simpa [Extender.admitted, Extender.getNodeStatsFromCache, hcache] using hadm
  have hnotpos : ¬ 0 < Extender.scoreMultiResource (Extender.extractPodRequirements pod) stats
      e.maxScore := fun hpos => by
    rw [(Extender.canScheduleMulti_iff _ _ _).mpr
      (Extender.hardFit_of_score_pos (one_pos.trans_le hm) hs hpos)] at hreject
    cases hreject
  have hscore := (Extender.scoreMonotone (zero_le_one.trans hm) hs hd).1.1
  refine List.mem_map.mpr ⟨n, hn, ?_⟩
  simp only [Extender.getNodeStatsFromCache, hcache]
  congr 1
  omega

/-- The extender's scorer and filter agree: a positive score means the node passes the
filter, so every node the filter turns away for insufficient resources scores zero. -/
theorem extender_score_agrees_with_filter :
    (∀ (d : PodRequest) (s : NodeStats) (maxScore : ℤ) (alpha : ℚ), 1 ≤ maxScore →
      (∀ r, 0 < s.free r) → (∀ r, 0 ≤ d.demand r) →
      0 < Extender.scoreMultiResource d s maxScore → Extender.canScheduleMulti d s alpha = true) ∧
    ∀ (e : Extender.Config) (cache : GoMap NodeStats) (pod : Pod) (nodes : List String)
      (n : String) (stats : NodeStats), 1 ≤ e.maxScore → cache.lookup n = some stats →
      (∀ r, 0 < stats.free r) → (∀ r, 0 ≤ (Extender.extractPodRequirements pod).demand r) →
      (Extender.filter e cache pod nodes).failedNodes.lookup n = some "insufficient resources" →
      (n, 0) ∈ Extender.prioritize e cache pod nodes :=
  ⟨fun _ _ _ _ hm hs _ hpos => (Extender.canScheduleMulti_iff _ _ _).mpr
      (Extender.hardFit_of_score_pos (one_pos.trans_le hm) hs hpos),
    fun e cache pod nodes _ _ hm hcache hs hd hfail =>
      Extender.prioritize_of_insufficient e cache pod nodes hm hcache hs hd hfail⟩

/-- A pod asking for one core and one byte scores 50 of 100 on a node with two cores free,
and the extender's filter admits it there. -/
theorem extender_score_agrees_with_filter_halfNode :
    0 < Extender.scoreMultiResource ⟨1, 1, 0, 0, 0, 0, 0⟩
        ⟨4, 2, 8, 4, 100, 50, 100, 50, 100, 50, 100, 50⟩ 100 ∧
      Extender.canScheduleMulti ⟨1, 1, 0, 0, 0, 0, 0⟩
        ⟨4, 2, 8, 4, 100, 50, 100, 50, 100, 50, 100, 50⟩ 0.5 = true := by
  have hs : ∀ r, 0 < (⟨4, 2, 8, 4, 100, 50, 100, 50, 100, 50, 100, 50⟩ : NodeStats).free r :=
    Resource.forall_iff.mpr (by norm_num [NodeStats.free])
  have hd : ∀ r, 0 ≤ (⟨1, 1, 0, 0, 0, 0, 0⟩ : PodRequest).demand r :=
    Resource.forall_iff.mpr (by norm_num [PodRequest.demand])
  have hpos : 0 < Extender.scoreMultiResource ⟨1, 1, 0, 0, 0, 0, 0⟩
      ⟨4, 2, 8, 4, 100, 50, 100, 50, 100, 50, 100, 50⟩ 100 := by
    rw [Extender.scoreMultiResource_eq hs]
    norm_num [dominantShare_eq_foldl, shareStep, Resource.all, PodRequest.demand, NodeStats.free,
      shareScore, truncToInt]
  exact ⟨hpos, extender_score_agrees_with_filter.1 _ _ 100 0.5 (by norm_num) hs hd hpos⟩

end MultiResource
