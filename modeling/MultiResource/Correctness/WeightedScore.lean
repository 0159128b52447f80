import MultiResource.Models.Plugin.Score

/-!
# The weighted-usage score

Each dimension's blend is a convex combination of the spread term `1 - usage` and the pack
term `usage` for `alpha ∈ [0, 1]`, and the weights sum to one, so a raw score lies in
`[0, maxScore]`. The blend's slope in usage is `4 alpha - 1` below `alpha = 0.5` and
`4 alpha - 3` from it on: the score spreads for `alpha < 0.25` and for `0.5 ≤ alpha < 0.75`,
and packs in between and above.
-/

namespace MultiResource.Plugin

/-- Weights in `[0, 1]` on two non-negative terms give a value in `[0, a + b]`. -/
theorem blend_mem_Icc (a b : ℚ) {v u : ℚ} (hv0 : 0 ≤ v) (hv1 : v ≤ 1) (hu0 : 0 ≤ u) (hu1 : u ≤ 1)
    (ha : 0 ≤ a) (hb : 0 ≤ b) : 0 ≤ v * a + u * b ∧ v * a + u * b ≤ a + b :=
  ⟨add_nonneg (mul_nonneg hv0 ha) (mul_nonneg hu0 hb),
    add_le_add (mul_le_of_le_one_left ha hv1) (mul_le_of_le_one_left hb hu1)⟩

/-- For `alpha ∈ [0, 1]` one dimension scores between `0` and its weight: in each branch the
spread and pack terms are weighted by `1 - u` and `u`, and their coefficients sum to one. -/
theorem resourceToScore_mem_Icc {alpha u w : ℚ} (ha0 : 0 ≤ alpha) (ha1 : alpha ≤ 1)
    (hu : 0 ≤ u ∧ u ≤ 1) (hw : 0 ≤ w) :
    0 ≤ resourceToScore alpha u w ∧ resourceToScore alpha u w ≤ w := by
  obtain ⟨hu0, hu1⟩ := hu
  have hv0 : 0 ≤ 1 - u := sub_nonneg.mpr hu1
  have hv1 : 1 - u ≤ 1 := sub_le_self 1 hu0
  unfold resourceToScore
  rw [show (1.0 : ℚ) = 1 by norm_num, show (2.0 : ℚ) = 2 by norm_num]
  split_ifs with h
  · obtain ⟨h0, h1⟩ := blend_mem_Icc (1 - alpha * 2) (alpha * 2) hv0 hv1 hu0 hu1
      (by linarith only [h]) (by linarith only [ha0])
    exact ⟨mul_nonneg h0 hw, mul_le_of_le_one_left hw (by linarith only [h1])⟩
  · obtain ⟨h0, h1⟩ := blend_mem_Icc (2 - alpha * 2) ((alpha - 0.5) * 2) hv0 hv1 hu0 hu1
      (by linarith only [ha1]) (by linarith only [not_lt.mp h])
    exact ⟨mul_nonneg h0 hw, mul_le_of_le_one_left hw (by linarith only [h1])⟩

/-- A clamped usage lies in `[0, 1]`. -/
theorem clampUnit_mem_Icc (x : ℚ) : 0 ≤ clampUnit x ∧ clampUnit x ≤ 1 :=
  ⟨le_max_left _ _, max_le zero_le_one (min_le_left _ _)⟩

/-- A clamped CPU or memory usage lies in `[0, 1]`. -/
theorem clampUsage_mem_Icc (num total : ℚ) : 0 ≤ clampUsage num total ∧ clampUsage num total ≤ 1 := by
  unfold clampUsage
  split_ifs
  exacts [⟨zero_le_one, le_rfl⟩, ⟨le_rfl, zero_le_one⟩, clampUnit_mem_Icc _]

/-- The weighted sum of six dimensions with usages in `[0, 1]` lies in `[0, 1]`: the
weights `0.4, 0.3` and four times `0.075` sum to one. -/
theorem weightedSum_mem_Icc {alpha : ℚ} (ha0 : 0 ≤ alpha) (ha1 : alpha ≤ 1)
    {u₁ u₂ u₃ u₄ u₅ u₆ : ℚ} (h₁ : 0 ≤ u₁ ∧ u₁ ≤ 1) (h₂ : 0 ≤ u₂ ∧ u₂ ≤ 1)
    (h₃ : 0 ≤ u₃ ∧ u₃ ≤ 1) (h₄ : 0 ≤ u₄ ∧ u₄ ≤ 1) (h₅ : 0 ≤ u₅ ∧ u₅ ≤ 1)
    (h₆ : 0 ≤ u₆ ∧ u₆ ≤ 1) :
    0 ≤ resourceToScore alpha u₁ 0.4 + resourceToScore alpha u₂ 0.3 +
        resourceToScore alpha u₃ 0.075 + resourceToScore alpha u₄ 0.075 +
        resourceToScore alpha u₅ 0.075 + resourceToScore alpha u₆ 0.075 ∧
      resourceToScore alpha u₁ 0.4 + resourceToScore alpha u₂ 0.3 +
        resourceToScore alpha u₃ 0.075 + resourceToScore alpha u₄ 0.075 +
        resourceToScore alpha u₅ 0.075 + resourceToScore alpha u₆ 0.075 ≤ 1 := by
  have hw₁ := resourceToScore_mem_Icc ha0 ha1 h₁ (by norm_num : (0 : ℚ) ≤ 0.4)
  have hw₂ := resourceToScore_mem_Icc ha0 ha1 h₂ (by norm_num : (0 : ℚ) ≤ 0.3)
  have hw : (0 : ℚ) ≤ 0.075 := by norm_num
  have hw₃ := resourceToScore_mem_Icc ha0 ha1 h₃ hw
  have hw₄ := resourceToScore_mem_Icc ha0 ha1 h₄ hw
  have hw₅ := resourceToScore_mem_Icc ha0 ha1 h₅ hw
  have hw₆ := resourceToScore_mem_Icc ha0 ha1 h₆ hw
  refine ⟨add_nonneg (add_nonneg (add_nonneg (add_nonneg (add_nonneg hw₁.1 hw₂.1) hw₃.1) hw₄.1)
    hw₅.1) hw₆.1, ?_⟩
  calc _ ≤ (0.4 : ℚ) + 0.3 + 0.075 + 0.075 + 0.075 + 0.075 :=
        add_le_add (add_le_add (add_le_add (add_le_add (add_le_add hw₁.2 hw₂.2) hw₃.2) hw₄.2)
          hw₅.2) hw₆.2
    _ = 1 := by norm_num

/-- A total in `[0, 1]` scales and truncates into `[0, maxScore]`, and the clamp keeps it. -/
theorem finalScore_mem_Icc {maxScore : ℤ} {total : ℚ} (hm : 0 ≤ maxScore) (h0 : 0 ≤ total)
    (h1 : total ≤ 1) :
    0 ≤ (if truncToInt (total * maxScore) > maxScore then maxScore
      else truncToInt (total * maxScore)) ∧
    (if truncToInt (total * maxScore) > maxScore then maxScore
      else truncToInt (total * maxScore)) ≤ maxScore := by
  have hm' : (0 : ℚ) ≤ maxScore := by exact_mod_cast hm
  obtain ⟨hf0, hf1⟩ := truncToInt_mem_Icc (mul_nonneg h0 hm') (mul_le_of_le_one_left hm' h1)
  split_ifs <;> omega

/-- For `alpha ∈ [0, 1]` and `maxScore ≥ 0` every raw score lies in `[0, maxScore]`. -/
theorem scoreMultiResource_mem_Icc (p : Config) (ha0 : 0 ≤ p.alpha) (ha1 : p.alpha ≤ 1)
    (hm : 0 ≤ p.maxScore) (podReq : PodRequest) (nodeStats : NodeStats) :
    0 ≤ scoreMultiResource p podReq nodeStats ∧ scoreMultiResource p podReq nodeStats ≤ p.maxScore := by
  have hsum := weightedSum_mem_Icc ha0 ha1
    (clampUsage_mem_Icc (nodeStats.cpuTotal - nodeStats.cpuFree + podReq.cpu) nodeStats.cpuTotal)
    (clampUsage_mem_Icc (nodeStats.memTotal - nodeStats.memFree + podReq.mem) nodeStats.memTotal)
    (clampUnit_mem_Icc (ioUsage nodeStats.diskReadTotal nodeStats.diskReadFree podReq.diskRead))
    (clampUnit_mem_Icc (ioUsage nodeStats.diskWriteTotal nodeStats.diskWriteFree podReq.diskWrite))
    (clampUnit_mem_Icc (ioUsage nodeStats.netUpTotal nodeStats.netUpFree podReq.netUp))
    (clampUnit_mem_Icc (ioUsage nodeStats.netDownTotal nodeStats.netDownFree podReq.netDown))
  exact finalScore_mem_Icc hm hsum.1 hsum.2

/-- The score's direction flips against `alpha`: at `New`'s default `alpha = 0.5` the node
with three of four CPUs free scores above the one with one free, so the score spreads, and at
`alpha = 0.4` it scores below it, so the score packs. -/
theorem scoreMultiResource_direction_flips :
    scoreMultiResource new ⟨0, 0, 0, 0, 0, 0, 0⟩ ⟨4, 1, 1, 1, 0, 0, 0, 0, 0, 0, 0, 0⟩ <
      scoreMultiResource new ⟨0, 0, 0, 0, 0, 0, 0⟩ ⟨4, 3, 1, 1, 0, 0, 0, 0, 0, 0, 0, 0⟩ ∧
    scoreMultiResource ⟨0.4, 100⟩ ⟨0, 0, 0, 0, 0, 0, 0⟩ ⟨4, 3, 1, 1, 0, 0, 0, 0, 0, 0, 0, 0⟩ <
      scoreMultiResource ⟨0.4, 100⟩ ⟨0, 0, 0, 0, 0, 0, 0⟩ ⟨4, 1, 1, 1, 0, 0, 0, 0, 0, 0, 0, 0⟩ := by
  simp only [scoreMultiResource, resourceToScore, clampUsage, clampUnit, ioUsage, new,
    lt_self_iff_false, if_false]
  norm_num [truncToInt]

end MultiResource.Plugin
