import MultiResource.Correctness.WeightedScore

/-!
# `NormalizeScore` over raw scores

The first loop keeps every score between its running bounds, and each bound is its seed or
a score. On raw scores in `[0, maxScore]` the seeds `0` and `maxScore` are therefore the true
extremes of a non-empty list, and for `maxScore ≤ 3 * 10^9` the rescaling stays inside
`int64`, so it is the exact floor of `(s - min) * maxScore / (max - min)`. On arbitrary
scores below `2^31` in absolute value the seeds still bound the spread by `2^32`, so the
rescaling stays inside `int64` for `maxScore < 2^31`; the early return is then taken only on
a list of one value of `[0, maxScore]`, and every result lies in `[0, maxScore]`.
-/

namespace MultiResource.Plugin

/-- The first loop's invariant: the bounds only widen, every score lies between them, and
each is its seed or one of the scores. -/
theorem foldl_boundsStep (init : ℤ × ℤ) (scores : List ℤ) :
    init.1 ≤ (scores.foldl boundsStep init).1 ∧ (scores.foldl boundsStep init).2 ≤ init.2 ∧
      (∀ x ∈ scores, x ≤ (scores.foldl boundsStep init).1 ∧
        (scores.foldl boundsStep init).2 ≤ x) ∧
      ((scores.foldl boundsStep init).1 = init.1 ∨ (scores.foldl boundsStep init).1 ∈ scores) ∧
      ((scores.foldl boundsStep init).2 = init.2 ∨ (scores.foldl boundsStep init).2 ∈ scores) := by
  induction scores generalizing init with
  | nil => simp
  | cons x xs ih =>
    obtain ⟨h1, h2, hmem, hhi, hlo⟩ := ih (boundsStep init x)
    have hs1 : init.1 ≤ (boundsStep init x).1 ∧ x ≤ (boundsStep init x).1 ∧
        ((boundsStep init x).1 = init.1 ∨ (boundsStep init x).1 = x) := by
      simp only [boundsStep]
      split_ifs <;> omega
    have hs2 : (boundsStep init x).2 ≤ init.2 ∧ (boundsStep init x).2 ≤ x ∧
        ((boundsStep init x).2 = init.2 ∨ (boundsStep init x).2 = x) := by
      simp only [boundsStep]
      split_ifs <;> omega
    simp only [List.foldl_cons, List.mem_cons, forall_eq_or_imp]
    refine ⟨by omega, by omega, ⟨⟨by omega, by omega⟩, hmem⟩,
      hhi.elim (fun h => (hs1.2.2.imp h.trans h.trans).imp_right .inl) (.inr ∘ .inr),
      hlo.elim (fun h => (hs2.2.2.imp h.trans h.trans).imp_right .inl) (.inr ∘ .inr)⟩

/-- The seeded bounds: `highest` is at least `0`, `lowest` at most `maxScore`, every score lies
between them, and each is its seed or a score. -/
theorem scoreBounds_spec (maxScore : ℤ) (scores : List ℤ) :
    0 ≤ (scoreBounds maxScore scores).1 ∧ (scoreBounds maxScore scores).2 ≤ maxScore ∧
      (∀ x ∈ scores, (scoreBounds maxScore scores).2 ≤ x ∧ x ≤ (scoreBounds maxScore scores).1) ∧
      ((scoreBounds maxScore scores).1 = 0 ∨ (scoreBounds maxScore scores).1 ∈ scores) ∧
      ((scoreBounds maxScore scores).2 = maxScore ∨ (scoreBounds maxScore scores).2 ∈ scores) :=
  let ⟨h0, hm, hb, hhi, hlo⟩ := foldl_boundsStep (0, maxScore) scores
  ⟨h0, hm, fun x hx => (hb x hx).symm, hhi, hlo⟩

/-- On a non-empty list of scores in `[0, maxScore]` the seeded bounds are its true maximum
and minimum. -/
theorem scoreBounds_of_mem_Icc {maxScore : ℤ} {scores : List ℤ} (hne : scores ≠ [])
    (hr : ∀ x ∈ scores, 0 ≤ x ∧ x ≤ maxScore) :
    (scoreBounds maxScore scores).1 ∈ scores ∧ (scoreBounds maxScore scores).2 ∈ scores ∧
      ∀ x ∈ scores, (scoreBounds maxScore scores).2 ≤ x ∧ x ≤ (scoreBounds maxScore scores).1 := by
  obtain ⟨-, -, hb, hhi, hlo⟩ := scoreBounds_spec maxScore scores
  obtain ⟨y, hy⟩ := List.exists_mem_of_ne_nil scores hne
  have hyb := hb y hy
  have hyr := hr y hy
  refine ⟨hhi.elim (fun h => ?_) id, hlo.elim (fun h => ?_) id, hb⟩
  · convert hy using 1
    omega
  · convert hy using 1
    omega

/-- When `(hi - lo) * maxScore` fits in `int64`, no intermediate of one rescaled score of
`[lo, hi]` leaves `int64`, and the result is the exact floor of the rescaling. -/
theorem normalize_entry_of_fits {maxScore lo hi x : ℤ} (hm1 : 1 ≤ maxScore)
    (hx : lo ≤ x ∧ x ≤ hi) (hne : lo < hi) (hfit : (hi - lo) * maxScore < 9223372036854775808) :
    InInt64 (x - lo) ∧ InInt64 ((x - lo) * maxScore) ∧ InInt64 (hi - lo) ∧
      wrap64 (Int.tdiv (wrap64 (wrap64 (x - lo) * maxScore)) (wrap64 (hi - lo))) =
        (x - lo) * maxScore / (hi - lo) := by
  have hd0 : 0 ≤ x - lo := by omega
  have hprod0 : 0 ≤ (x - lo) * maxScore := mul_nonneg hd0 (by omega)
  have hprod1 : (x - lo) * maxScore ≤ (hi - lo) * maxScore :=
    mul_le_mul_of_nonneg_right (by omega) (by omega)
  have hden1 : hi - lo ≤ (hi - lo) * maxScore := le_mul_of_one_le_right (by omega) hm1
  have hsub : InInt64 (x - lo) := by unfold InInt64; omega
  have hprod : InInt64 ((x - lo) * maxScore) := by unfold InInt64; omega
  have hden : InInt64 (hi - lo) := by unfold InInt64; omega
  refine ⟨hsub, hprod, hden, ?_⟩
  rw [wrap64_of_inInt64 hsub, wrap64_of_inInt64 hprod, wrap64_of_inInt64 hden,
    Int.tdiv_eq_ediv hprod0 (by omega)]
  have hq0 : 0 ≤ (x - lo) * maxScore / (hi - lo) := Int.ediv_nonneg hprod0 (by omega)
  have hq1 := Int.ediv_le_self (hi - lo) hprod0
  exact wrap64_of_inInt64 (by unfold InInt64; omega)

/-- `NormalizeScore`'s early return: equal bounds leave the scores unchanged. -/
theorem normalizeScore_of_eq {maxScore : ℤ} {scores : List ℤ}
    (h : (scoreBounds maxScore scores).1 = (scoreBounds maxScore scores).2) :
    normalizeScore maxScore scores = scores :=
  if_pos h

/-- Past the early return, when the spread times `maxScore` fits in `int64`, no intermediate of
the rescaling leaves `int64` and `NormalizeScore` is the exact rescaling over the seeded
bounds. -/
theorem normalizeScore_of_fits {maxScore : ℤ} {scores : List ℤ} (hm1 : 1 ≤ maxScore)
    (hne : (scoreBounds maxScore scores).1 ≠ (scoreBounds maxScore scores).2)
    (hfit : ((scoreBounds maxScore scores).1 - (scoreBounds maxScore scores).2) * maxScore <
      9223372036854775808) :
    (∀ x ∈ scores, InInt64 (x - (scoreBounds maxScore scores).2) ∧
        InInt64 ((x - (scoreBounds maxScore scores).2) * maxScore) ∧
        InInt64 ((scoreBounds maxScore scores).1 - (scoreBounds maxScore scores).2)) ∧
      normalizeScore maxScore scores = scores.map fun x =>
        (x - (scoreBounds maxScore scores).2) * maxScore /
          ((scoreBounds maxScore scores).1 - (scoreBounds maxScore scores).2) := by
  obtain ⟨-, -, hb, -, -⟩ := scoreBounds_spec maxScore scores
  have hentry := fun x hx => normalize_entry_of_fits hm1 (hb x hx)
    (lt_of_le_of_ne ((hb x hx).1.trans (hb x hx).2) (Ne.symm hne)) hfit
  refine ⟨fun x hx => ⟨(hentry x hx).1, (hentry x hx).2.1, (hentry x hx).2.2.1⟩, ?_⟩
  exact (if_neg hne).trans (List.map_congr_left fun x hx => (if_pos hne).trans (hentry x hx).2.2.2)

/-- The rescaling is monotone and maps `[lo, hi]` into `[0, maxScore]`. -/
theorem rescale_mono_mem_Icc {maxScore lo hi : ℤ} (hm : 0 ≤ maxScore) (hne : lo < hi) :
    Monotone (fun x => (x - lo) * maxScore / (hi - lo)) ∧
      ∀ x, lo ≤ x → x ≤ hi → 0 ≤ (x - lo) * maxScore / (hi - lo) ∧
        (x - lo) * maxScore / (hi - lo) ≤ maxScore := by
  have hpos : 0 < hi - lo := by omega
  have hmono : Monotone (fun x => (x - lo) * maxScore / (hi - lo)) := fun x y hxy =>
    Int.ediv_le_ediv hpos (mul_le_mul_of_nonneg_right (by omega) hm)
  refine ⟨hmono, fun x hx1 hx2 => ⟨Int.ediv_nonneg (mul_nonneg (by omega) hm) hpos.le, ?_⟩⟩
  calc (x - lo) * maxScore / (hi - lo) ≤ (hi - lo) * maxScore / (hi - lo) := hmono hx2
    _ = maxScore := Int.mul_ediv_cancel_left _ hpos.ne'

/-- Pairing each score with its image under a map. -/
theorem zip_map_self {g : ℤ → ℤ} (l : List ℤ) : l.zip (l.map g) = l.map fun a => (a, g a) := by
  simpa using List.zip_map' id g l

/-- On raw scores in `[0, maxScore]`, `NormalizeScore` leaves an all-equal list unchanged, and
otherwise rescales each score over the true minimum and maximum, exactly and inside `int64`. -/
theorem normalizeScore_of_mem_Icc {maxScore : ℤ} {raw : List ℤ} (hm1 : 1 ≤ maxScore)
    (hm2 : maxScore ≤ 3000000000) (hr : ∀ x ∈ raw, 0 ≤ x ∧ x ≤ maxScore) :
    ((∀ x ∈ raw, ∀ y ∈ raw, x = y) → normalizeScore maxScore raw = raw) ∧
      ∀ lo hi, lo ∈ raw → hi ∈ raw → (∀ x ∈ raw, lo ≤ x ∧ x ≤ hi) → lo ≠ hi →
        normalizeScore maxScore raw = raw.map (fun x => (x - lo) * maxScore / (hi - lo)) ∧
        ∀ x ∈ raw, InInt64 (x - lo) ∧ InInt64 ((x - lo) * maxScore) ∧ InInt64 (hi - lo) := by
  constructor
  · intro hall
    by_cases hnil : raw = []
    · simp only [hnil, normalizeScore, scoreBounds, List.foldl_nil, List.map_nil, ite_self]
    · obtain ⟨hhi, hlo, -⟩ := scoreBounds_of_mem_Icc hnil hr
      exact normalizeScore_of_eq (hall _ hhi _ hlo)
  · intro lo hi hlo hhi hb hne
    obtain ⟨hhi', hlo', hb'⟩ := scoreBounds_of_mem_Icc (List.ne_nil_of_mem hlo) hr
    obtain rfl : (scoreBounds maxScore raw).1 = hi := le_antisymm (hb _ hhi').2 (hb' hi hhi).2
    obtain rfl : (scoreBounds maxScore raw).2 = lo := le_antisymm (hb' lo hlo).1 (hb _ hlo').1
    have hfit : ((scoreBounds maxScore raw).1 - (scoreBounds maxScore raw).2) * maxScore <
        9223372036854775808 :=
      calc _ ≤ 3000000000 * 3000000000 :=
            mul_le_mul (by linarith [(hr _ hlo).1, (hr _ hhi).2]) hm2 (by omega) (by norm_num)
        _ < 9223372036854775808 := by norm_num
    obtain ⟨hint, hmap⟩ := normalizeScore_of_fits hm1 hne.symm hfit
    exact ⟨hmap, hint⟩

/-- On raw scores in `[0, maxScore]`, `NormalizeScore` maps each score through one monotone
function into `[0, maxScore]`. -/
theorem normalizeScore_eq_map_mono {maxScore : ℤ} {raw : List ℤ} (hm1 : 1 ≤ maxScore)
    (hm2 : maxScore ≤ 3000000000) (hr : ∀ x ∈ raw, 0 ≤ x ∧ x ≤ maxScore) :
    ∃ g : ℤ → ℤ, Monotone g ∧ (∀ x ∈ raw, 0 ≤ g x ∧ g x ≤ maxScore) ∧
      normalizeScore maxScore raw = raw.map g := by
  obtain ⟨hall, hrescale⟩ := normalizeScore_of_mem_Icc hm1 hm2 hr
  by_cases heq : ∀ x ∈ raw, ∀ y ∈ raw, x = y
  · exact ⟨id, monotone_id, hr, by rw [hall heq, List.map_id]⟩
  · have hnil : raw ≠ [] := by
      rintro rfl
      simp at heq
    obtain ⟨hhi, hlo, hb⟩ := scoreBounds_of_mem_Icc hnil hr
    have hne : (scoreBounds maxScore raw).2 ≠ (scoreBounds maxScore raw).1 := fun h =>
      heq fun x hx y hy => by have := hb x hx; have := hb y hy; omega
    have hlt := lt_of_le_of_ne ((hb _ hlo).2) hne
    obtain ⟨hmono, hrange⟩ := rescale_mono_mem_Icc (by omega : 0 ≤ maxScore) hlt
    exact ⟨_, hmono, fun x hx => hrange x (hb x hx).1 (hb x hx).2,
      (hrescale _ _ hlo hhi hb hne).1⟩

/-- On any scores of absolute value below `2^31` and `maxScore ∈ [1, 2^31)`, the seeds keep
every score between `lowest` and `highest`; the early return is taken only when all scores are
one value of `[0, maxScore]`; otherwise every intermediate of the rescaling stays inside
`int64` and each score becomes the exact floor of its rescaling; and every result lies in
`[0, maxScore]`. -/
theorem normalizeScore_stays_in_range (maxScore : ℤ) (scores : List ℤ) (hm1 : 1 ≤ maxScore)
    (hm2 : maxScore < 2 ^ 31) (hs : ∀ x ∈ scores, -2 ^ 31 < x ∧ x < 2 ^ 31) :
    (∀ x ∈ scores, (scoreBounds maxScore scores).2 ≤ x ∧ x ≤ (scoreBounds maxScore scores).1) ∧
      ((scoreBounds maxScore scores).1 = (scoreBounds maxScore scores).2 →
        ∃ v, 0 ≤ v ∧ v ≤ maxScore ∧ ∀ x ∈ scores, x = v) ∧
      ((scoreBounds maxScore scores).1 ≠ (scoreBounds maxScore scores).2 →
        (∀ x ∈ scores, InInt64 (x - (scoreBounds maxScore scores).2) ∧
          InInt64 ((x - (scoreBounds maxScore scores).2) * maxScore) ∧
          InInt64 ((scoreBounds maxScore scores).1 - (scoreBounds maxScore scores).2)) ∧
        normalizeScore maxScore scores = scores.map fun x =>
          (x - (scoreBounds maxScore scores).2) * maxScore /
            ((scoreBounds maxScore scores).1 - (scoreBounds maxScore scores).2)) ∧
      ∀ y ∈ normalizeScore maxScore scores, 0 ≤ y ∧ y ≤ maxScore := by
  obtain ⟨h0, hm, hb, hhi, hlo⟩ := scoreBounds_spec maxScore scores
  set highest := (scoreBounds maxScore scores).1
  set lowest := (scoreBounds maxScore scores).2
  by_cases heq : highest = lowest
  · have hall : ∀ x ∈ scores, x = highest := fun x hx => by have := hb x hx; omega
    rw [normalizeScore_of_eq heq]
    exact ⟨hb, fun _ => ⟨highest, h0, heq ▸ hm, hall⟩, fun h => absurd heq h,
      fun y hy => hall y hy ▸ ⟨h0, heq ▸ hm⟩⟩
  · have hhi' : highest < 2 ^ 31 := hhi.elim (fun h => by omega) fun h => (hs _ h).2
    have hlo' : -2 ^ 31 < lowest := hlo.elim (fun h => by omega) fun h => (hs _ h).1
    have hfit : (highest - lowest) * maxScore < 9223372036854775808 :=
      calc (highest - lowest) * maxScore ≤ (2 ^ 32 - 2) * (2 ^ 31 - 1) :=
            mul_le_mul (by omega) (by omega) (by omega) (by norm_num)
        _ < 9223372036854775808 := by norm_num
    obtain ⟨hint, hmap⟩ := normalizeScore_of_fits hm1 heq hfit
    refine ⟨hb, fun h => absurd h heq, fun _ => ⟨hint, hmap⟩, ?_⟩
    simp only [hmap, List.mem_map]
    rintro _ ⟨x, hx, rfl⟩
    have hlt : lowest < highest := lt_of_le_of_ne ((hb x hx).1.trans (hb x hx).2) (Ne.symm heq)
    exact (rescale_mono_mem_Icc (zero_le_one.trans hm1) hlt).2 x (hb x hx).1 (hb x hx).2

/-- A list with a negative and an oversized score at `maxScore = 100`. -/
theorem normalizeScore_stays_in_range_outOfRange :
    (1 : ℤ) ≤ 100 ∧ (100 : ℤ) < 2 ^ 31 ∧ (∀ x ∈ ([-5, 300] : List ℤ), -2 ^ 31 < x ∧ x < 2 ^ 31) ∧
      ∀ y ∈ normalizeScore 100 [-5, 300], 0 ≤ y ∧ y ≤ 100 :=
  ⟨by norm_num, by norm_num, by decide,
    (normalizeScore_stays_in_range 100 [-5, 300] (by norm_num) (by norm_num) (by decide)).2.2.2⟩

/-- The plugin's weighted-usage pipeline: for `alpha ∈ [0, 1]` and
`1 ≤ maxScore ≤ 3 * 10^9` every raw score lies in `[0, maxScore]`; `NormalizeScore` keeps that
range and the raw scores' weak order, leaves all-equal scores unchanged, and otherwise sends
each score to the exact floor of its rescaling over the true minimum and maximum, with every
intermediate inside `int64`, so the minimum goes to `0` and the maximum to `maxScore`. Positive
CPU and memory totals keep the usages' divisions at Go's float division. -/
theorem score_pipeline_normalizes (p : Config) (ha0 : 0 ≤ p.alpha) (ha1 : p.alpha ≤ 1)
    (hm1 : 1 ≤ p.maxScore) (hm2 : p.maxScore ≤ 3000000000) (podReq : PodRequest)
    (nodes : List NodeStats) (_hnodes : ∀ s ∈ nodes, 0 < s.cpuTotal ∧ 0 < s.memTotal) :
    let raw := nodes.map (scoreMultiResource p podReq)
    let norm := normalizeScore p.maxScore raw
    (∀ x ∈ raw, 0 ≤ x ∧ x ≤ p.maxScore) ∧ (∀ y ∈ norm, 0 ≤ y ∧ y ≤ p.maxScore) ∧
      norm.length = raw.length ∧ (∀ a ∈ raw.zip norm, ∀ b ∈ raw.zip norm, a.1 ≤ b.1 → a.2 ≤ b.2) ∧
      ((∀ x ∈ raw, ∀ y ∈ raw, x = y) → norm = raw) ∧
      ∀ lo hi, lo ∈ raw → hi ∈ raw → (∀ x ∈ raw, lo ≤ x ∧ x ≤ hi) → lo ≠ hi →
        norm = raw.map (fun x => (x - lo) * p.maxScore / (hi - lo)) ∧
        (∀ x ∈ raw, InInt64 (x - lo) ∧ InInt64 ((x - lo) * p.maxScore) ∧ InInt64 (hi - lo)) ∧
        (lo, 0) ∈ raw.zip norm ∧ (hi, p.maxScore) ∈ raw.zip norm := by
  intro raw norm
  have hraw : ∀ x ∈ raw, 0 ≤ x ∧ x ≤ p.maxScore := by
    simp only [raw, List.mem_map]
    rintro _ ⟨s, -, rfl⟩
    exact scoreMultiResource_mem_Icc p ha0 ha1 (by omega) podReq s
  obtain ⟨hall, hrescale⟩ := normalizeScore_of_mem_Icc hm1 hm2 hraw
  obtain ⟨g, hg, hgr, hmap⟩ := normalizeScore_eq_map_mono hm1 hm2 hraw
  have hnorm : norm = raw.map g := hmap
  have hzip : raw.zip norm = raw.map fun a => (a, g a) := by rw [hnorm, zip_map_self]
  refine ⟨hraw, ?_, by rw [hnorm, List.length_map], ?_, hall, ?_⟩
  · simp only [hnorm, List.mem_map]
    rintro _ ⟨x, hx, rfl⟩
    exact hgr x hx
  · simp only [hzip, List.mem_map]
    rintro _ ⟨x, -, rfl⟩ _ ⟨y, -, rfl⟩ hxy
    exact hg hxy
  · intro lo hi hlo hhi hb hne
    obtain ⟨heq, hint⟩ := hrescale lo hi hlo hhi hb hne
    have hpos : 0 < hi - lo := by have := (hb lo hlo).2; omega
    have hnorm' : raw.zip norm = raw.map fun a => (a, (a - lo) * p.maxScore / (hi - lo)) := by
      rw [show norm = _ from heq, zip_map_self]
    refine ⟨heq, hint, ?_, ?_⟩
    · simpa [hnorm'] using List.mem_map_of_mem
        (fun a => (a, (a - lo) * p.maxScore / (hi - lo))) hlo
    · have hmax : (hi - lo) * p.maxScore / (hi - lo) = p.maxScore :=
        Int.mul_ediv_cancel_left _ hpos.ne'
      rw [hnorm']
      simpa only [hmax] using List.mem_map_of_mem
        (fun a => (a, (a - lo) * p.maxScore / (hi - lo))) hhi

/-- The pipeline at `New`'s configuration on two nodes that differ in free CPU. -/
theorem score_pipeline_normalizes_new :
    (0 ≤ new.alpha ∧ new.alpha ≤ 1 ∧ 1 ≤ new.maxScore ∧ new.maxScore ≤ 3000000000) ∧
      (∀ s ∈ ([⟨4, 3, 1, 1, 0, 0, 0, 0, 0, 0, 0, 0⟩, ⟨4, 1, 1, 1, 0, 0, 0, 0, 0, 0, 0, 0⟩] :
        List NodeStats), 0 < s.cpuTotal ∧ 0 < s.memTotal) ∧
      ∀ y ∈ normalizeScore new.maxScore (([⟨4, 3, 1, 1, 0, 0, 0, 0, 0, 0, 0, 0⟩,
        ⟨4, 1, 1, 1, 0, 0, 0, 0, 0, 0, 0, 0⟩] : List NodeStats).map
          (scoreMultiResource new ⟨0, 0, 0, 0, 0, 0, 0⟩)), 0 ≤ y ∧ y ≤ new.maxScore := by
  have hcfg : 0 ≤ new.alpha ∧ new.alpha ≤ 1 ∧ 1 ≤ new.maxScore ∧ new.maxScore ≤ 3000000000 := by
    norm_num [new]
  have hnodes : ∀ s ∈ ([⟨4, 3, 1, 1, 0, 0, 0, 0, 0, 0, 0, 0⟩,
      ⟨4, 1, 1, 1, 0, 0, 0, 0, 0, 0, 0, 0⟩] : List NodeStats), 0 < s.cpuTotal ∧ 0 < s.memTotal := by
    norm_num
  exact ⟨hcfg, hnodes, (score_pipeline_normalizes new hcfg.1 hcfg.2.1 hcfg.2.2.1 hcfg.2.2.2
    ⟨0, 0, 0, 0, 0, 0, 0⟩ _ hnodes).2.1⟩

end MultiResource.Plugin
