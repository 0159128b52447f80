import MultiResource.Models.Plugin.Filter
import MultiResource.Models.Extender.Resources
import MultiResource.Models.Preemptive.Scheduler

/-!
# The three admission filters

The plugin's and the extender's filters are the spec's hard check `demand ≤ free` in every
dimension. The preemptive scheduler's filter skips dimensions without demand and adds the
utilisation ceiling `1 - (free - demand) / total ≤ alpha`; on free capacities that are not
negative it implies the hard check, and from `alpha = 1` on the ceiling no longer binds.
-/

namespace MultiResource

/-- The spec's hard check: no dimension's demand exceeds its free capacity. -/
def HardFit (d : PodRequest) (s : NodeStats) : Prop := ∀ r, d.demand r ≤ s.free r

/-- The plugin's filter is the hard check. -/
theorem Plugin.canScheduleMulti_iff (d : PodRequest) (s : NodeStats) :
    Plugin.canScheduleMulti d s = true ↔ HardFit d s := by
  simp only [Plugin.canScheduleMulti, HardFit, Resource.forall_iff, PodRequest.demand,
    NodeStats.free, Bool.if_false_left, Bool.and_true, Bool.and_eq_true, Bool.not_eq_true',
    decide_eq_false_iff_not, gt_iff_lt, not_lt]

/-- The extender's filter makes the plugin's six checks, two at a time. -/
theorem Extender.canScheduleMulti_eq_plugin (d : PodRequest) (s : NodeStats) (alpha : ℚ) :
    Extender.canScheduleMulti d s alpha = Plugin.canScheduleMulti d s := by
  simp only [Extender.canScheduleMulti, Plugin.canScheduleMulti, ite_or]

/-- The extender's filter is the hard check, whatever `alpha`. -/
theorem Extender.canScheduleMulti_iff (d : PodRequest) (s : NodeStats) (alpha : ℚ) :
    Extender.canScheduleMulti d s alpha = true ↔ HardFit d s := by
  rw [Extender.canScheduleMulti_eq_plugin, Plugin.canScheduleMulti_iff]

namespace Preemptive

/-- One dimension of the preemptive filter, as a proposition. -/
theorem admitsResource_iff (free total req alpha : ℚ) :
    admitsResource free total req alpha = true ↔
      req = 0 ∨ (req ≤ free ∧ (total ≠ 0 → 1 - (free - req) / total ≤ alpha)) := by
  unfold admitsResource
  by_cases h0 : req = 0
  · simp [h0]
  by_cases h1 : free < req
  · simp [h0, h1, not_le.mpr h1]
  rw [if_neg h0, if_neg h1]
  simp only [h0, false_or, not_lt.mp h1, true_and]
  split_ifs with h2
  · exact iff_of_false (by simp) fun h => not_lt.mpr (h h2.1) h2.2
  · exact iff_of_true rfl fun ht => not_lt.mp fun h => h2 ⟨ht, h⟩

/-- A demand that fits a positive total passes the ceiling from `alpha = 1` on. -/
theorem admitsResource_of_le {free total req alpha : ℚ} (htotal : 0 < total)
    (hfit : req ≤ free) (halpha : 1 ≤ alpha) : admitsResource free total req alpha = true := by
  have hshare : 0 ≤ (free - req) / total := div_nonneg (sub_nonneg.mpr hfit) htotal.le
  exact (admitsResource_iff _ _ _ _).mpr (.inr ⟨hfit, fun _ => by linarith⟩)

/-- The preemptive filter checks every dimension. -/
theorem canScheduleMulti_iff (d : PodRequest) (s : NodeStats) (alpha : ℚ) :
    canScheduleMulti d s alpha = true ↔
      ∀ r, admitsResource (s.free r) (s.total r) (d.demand r) alpha = true := by
  simp only [canScheduleMulti, List.all_eq_true]
  exact ⟨fun h r => h r (Resource.mem_all r), fun h r _ => h r⟩

end Preemptive

/-- The three admission filters agree: on non-negative free capacities and positive totals
the preemptive filter implies the extender's, the extender's equals the plugin's, and from
`alpha = 1` on all three are equal. -/
theorem admission_filters_agree (d : PodRequest) (s : NodeStats) (alpha : ℚ)
    (hfree : ∀ r, 0 ≤ s.free r) (htotal : ∀ r, 0 < s.total r) :
    (Preemptive.canScheduleMulti d s alpha = true → Extender.canScheduleMulti d s alpha = true) ∧
    Extender.canScheduleMulti d s alpha = Plugin.canScheduleMulti d s ∧
    (1 ≤ alpha → Preemptive.canScheduleMulti d s alpha = Extender.canScheduleMulti d s alpha) := by
  have hhard : Preemptive.canScheduleMulti d s alpha = true → HardFit d s := by
    intro h r
    rcases (Preemptive.admitsResource_iff _ _ _ _).mp ((Preemptive.canScheduleMulti_iff _ _ _).mp h r)
      with h0 | ⟨hle, -⟩
    · exact h0 ▸ hfree r
    · exact hle
  refine ⟨fun h => (Extender.canScheduleMulti_iff d s alpha).mpr (hhard h), ?_, fun halpha => ?_⟩
  · exact Extender.canScheduleMulti_eq_plugin d s alpha
  · refine Bool.eq_iff_iff.mpr ⟨fun h => (Extender.canScheduleMulti_iff d s alpha).mpr (hhard h),
      fun h => (Preemptive.canScheduleMulti_iff _ _ _).mpr fun r => ?_⟩
    exact Preemptive.admitsResource_of_le (htotal r)
      ((Extender.canScheduleMulti_iff d s alpha).mp h r) halpha

/-- At `alpha = 1` a node with room everywhere meets the three filters' hypotheses. -/
theorem admission_filters_agree_at_one :
    (∀ r, 0 ≤ (⟨4, 3, 8, 6, 100, 50, 100, 50, 100, 50, 100, 50⟩ : NodeStats).free r) ∧
    (∀ r, 0 < (⟨4, 3, 8, 6, 100, 50, 100, 50, 100, 50, 100, 50⟩ : NodeStats).total r) ∧
    ((Preemptive.canScheduleMulti ⟨1, 1, 0, 0, 0, 0, 0⟩
        ⟨4, 3, 8, 6, 100, 50, 100, 50, 100, 50, 100, 50⟩ 1 = true →
      Extender.canScheduleMulti ⟨1, 1, 0, 0, 0, 0, 0⟩
        ⟨4, 3, 8, 6, 100, 50, 100, 50, 100, 50, 100, 50⟩ 1 = true) ∧
    Extender.canScheduleMulti ⟨1, 1, 0, 0, 0, 0, 0⟩
        ⟨4, 3, 8, 6, 100, 50, 100, 50, 100, 50, 100, 50⟩ 1 =
      Plugin.canScheduleMulti ⟨1, 1, 0, 0, 0, 0, 0⟩
        ⟨4, 3, 8, 6, 100, 50, 100, 50, 100, 50, 100, 50⟩ ∧
    (1 ≤ (1 : ℚ) → Preemptive.canScheduleMulti ⟨1, 1, 0, 0, 0, 0, 0⟩
        ⟨4, 3, 8, 6, 100, 50, 100, 50, 100, 50, 100, 50⟩ 1 =
      Extender.canScheduleMulti ⟨1, 1, 0, 0, 0, 0, 0⟩
        ⟨4, 3, 8, 6, 100, 50, 100, 50, 100, 50, 100, 50⟩ 1)) := by
  have hfree : ∀ r, 0 ≤ (⟨4, 3, 8, 6, 100, 50, 100, 50, 100, 50, 100, 50⟩ : NodeStats).free r :=
    Resource.forall_iff.mpr (by norm_num [NodeStats.free])
  have htotal : ∀ r, 0 < (⟨4, 3, 8, 6, 100, 50, 100, 50, 100, 50, 100, 50⟩ : NodeStats).total r :=
    Resource.forall_iff.mpr (by norm_num [NodeStats.total])
  exact ⟨hfree, htotal, admission_filters_agree _ _ _ hfree htotal⟩

/-! ## Monotone admission -/

/-- `(d', s', alpha')` asks no more of a node than `(d, s, alpha)`: no less free capacity under
the same totals, no larger demand and no newly demanded dimension, and no lower ceiling. -/
structure Relaxes (d : PodRequest) (s : NodeStats) (alpha : ℚ) (d' : PodRequest)
    (s' : NodeStats) (alpha' : ℚ) : Prop where
  free_le : ∀ r, s.free r ≤ s'.free r
  total_eq : ∀ r, s'.total r = s.total r
  demand_le : ∀ r, d'.demand r ≤ d.demand r
  demand_zero : ∀ r, d.demand r = 0 → d'.demand r = 0
  alpha_le : alpha ≤ alpha'

namespace Relaxes

variable {d : PodRequest} {s : NodeStats} {alpha : ℚ}

/-- More free capacity in one dimension relaxes the check. -/
theorem withFree {r : Resource} {x : ℚ} (hx : s.free r ≤ x) :
    Relaxes d s alpha d (s.withFree r x) alpha where
  free_le r' := by
    rw [NodeStats.free_withFree]
    split_ifs with h
    · exact h ▸ hx
    · exact le_rfl
  total_eq _ := NodeStats.total_withFree _ _ _ _
  demand_le _ := le_rfl
  demand_zero _ := id
  alpha_le := le_rfl

/-- A higher ceiling relaxes the check. -/
theorem raiseAlpha {alpha' : ℚ} (h : alpha ≤ alpha') : Relaxes d s alpha d s alpha' :=
  ⟨fun _ => le_rfl, fun _ => rfl, fun _ => le_rfl, fun _ => id, h⟩

/-- A smaller non-negative demand in one dimension relaxes the check. -/
theorem withDemand {r : Resource} {y : ℚ} (h0 : 0 ≤ y) (hy : y ≤ d.demand r) :
    Relaxes d s alpha (d.withDemand r y) s alpha where
  free_le _ := le_rfl
  total_eq _ := rfl
  demand_le r' := by
    rw [PodRequest.demand_withDemand]
    split_ifs with h
    · exact h ▸ hy
    · exact le_rfl
  demand_zero r' hz := by
    rw [PodRequest.demand_withDemand]
    split_ifs with h
    · subst h
      linarith
    · exact hz
  alpha_le := le_rfl

end Relaxes

/-- The hard check survives any relaxation. -/
theorem HardFit.relax {d d' : PodRequest} {s s' : NodeStats} {alpha alpha' : ℚ}
    (h : HardFit d s) (hr : Relaxes d s alpha d' s' alpha') : HardFit d' s' :=
  fun r => (hr.demand_le r).trans ((h r).trans (hr.free_le r))

/-- One dimension of the preemptive filter survives more free capacity, a smaller demand that
stays zero where it was zero, and a higher ceiling. -/
theorem Preemptive.admitsResource_relax {free free' total req req' alpha alpha' : ℚ}
    (htotal : 0 < total) (h : Preemptive.admitsResource free total req alpha = true)
    (hfree : free ≤ free') (hreq : req' ≤ req) (hzero : req = 0 → req' = 0)
    (halpha : alpha ≤ alpha') : Preemptive.admitsResource free' total req' alpha' = true := by
  rw [Preemptive.admitsResource_iff] at h ⊢
  by_cases h0 : req' = 0
  · exact .inl h0
  · rcases h with h | ⟨hle, hceil⟩
    · exact absurd (hzero h) h0
    · have hshare : (free - req) / total ≤ (free' - req') / total :=
        div_le_div_of_nonneg_right (by linarith) htotal.le
      exact .inr ⟨by linarith, fun ht => by linarith [hceil ht]⟩

/-- The preemptive check passes on any relaxation of a case it passes, given positive totals. -/
theorem Preemptive.canScheduleMulti_relax {d d' : PodRequest} {s s' : NodeStats}
    {alpha alpha' : ℚ} (htotal : ∀ r, 0 < s.total r)
    (h : Preemptive.canScheduleMulti d s alpha = true) (hr : Relaxes d s alpha d' s' alpha') :
    Preemptive.canScheduleMulti d' s' alpha' = true := by
  rw [Preemptive.canScheduleMulti_iff] at h ⊢
  intro r
  rw [hr.total_eq r]
  exact Preemptive.admitsResource_relax (htotal r) (h r) (hr.free_le r) (hr.demand_le r)
    (hr.demand_zero r) hr.alpha_le

/-- An admission filter is monotone at `(d, s, alpha)`: once it admits, it still admits after
raising one free capacity, raising `alpha`, or lowering one demand to a value in
`[0, demand]`. -/
def AdmissionMonotone (accepts : PodRequest → NodeStats → ℚ → Bool) (d : PodRequest)
    (s : NodeStats) (alpha : ℚ) : Prop :=
  accepts d s alpha = true →
    (∀ r x, s.free r ≤ x → accepts d (s.withFree r x) alpha = true) ∧
    (∀ alpha', alpha ≤ alpha' → accepts d s alpha' = true) ∧
    ∀ r y, 0 ≤ y → y ≤ d.demand r → accepts (d.withDemand r y) s alpha = true

/-- A filter that survives every relaxation is monotone. -/
theorem admissionMonotone_of_relax {accepts : PodRequest → NodeStats → ℚ → Bool}
    {d : PodRequest} {s : NodeStats} {alpha : ℚ}
    (h : ∀ d' s' alpha', Relaxes d s alpha d' s' alpha' → accepts d s alpha = true →
      accepts d' s' alpha' = true) :
    AdmissionMonotone accepts d s alpha := fun hacc =>
  ⟨fun _ _ hx => h _ _ _ (.withFree hx) hacc, fun _ ha => h _ _ _ (.raiseAlpha ha) hacc,
    fun _ _ h0 hy => h _ _ _ (.withDemand h0 hy) hacc⟩

/-- Admission is monotone in all three filters; the preemptive one needs positive totals for
its ceiling. -/
theorem admission_monotone (d : PodRequest) (s : NodeStats) (alpha : ℚ)
    (htotal : ∀ r, 0 < s.total r) :
    AdmissionMonotone Preemptive.canScheduleMulti d s alpha ∧
      AdmissionMonotone Extender.canScheduleMulti d s alpha ∧
      AdmissionMonotone (fun d s _ => Plugin.canScheduleMulti d s) d s alpha := by
  refine ⟨admissionMonotone_of_relax fun _ _ _ hr h =>
      Preemptive.canScheduleMulti_relax htotal h hr, admissionMonotone_of_relax ?_,
    admissionMonotone_of_relax ?_⟩
  · intro _ _ _ hr h
    rw [Extender.canScheduleMulti_iff] at h ⊢
    exact h.relax hr
  · intro _ _ _ hr h
    rw [Plugin.canScheduleMulti_iff] at h ⊢
    exact h.relax hr

/-- A node whose totals are all positive meets the hypothesis of monotone admission. -/
theorem admission_monotone_roomyNode :
    (∀ r, 0 < (⟨4, 3, 8, 6, 100, 50, 100, 50, 100, 50, 100, 50⟩ : NodeStats).total r) ∧
      (AdmissionMonotone Preemptive.canScheduleMulti ⟨1, 1, 0, 0, 0, 0, 0⟩
          ⟨4, 3, 8, 6, 100, 50, 100, 50, 100, 50, 100, 50⟩ 0.5 ∧
        AdmissionMonotone Extender.canScheduleMulti ⟨1, 1, 0, 0, 0, 0, 0⟩
          ⟨4, 3, 8, 6, 100, 50, 100, 50, 100, 50, 100, 50⟩ 0.5 ∧
        AdmissionMonotone (fun d s _ => Plugin.canScheduleMulti d s) ⟨1, 1, 0, 0, 0, 0, 0⟩
          ⟨4, 3, 8, 6, 100, 50, 100, 50, 100, 50, 100, 50⟩ 0.5) := by
  have htotal : ∀ r, 0 < (⟨4, 3, 8, 6, 100, 50, 100, 50, 100, 50, 100, 50⟩ : NodeStats).total r :=
    Resource.forall_iff.mpr (by norm_num [NodeStats.total])
  exact ⟨htotal, admission_monotone _ _ _ htotal⟩

end MultiResource
