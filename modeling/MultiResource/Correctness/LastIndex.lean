import MultiResource.Models.Plugin.Metrics

/-!
# `lastIndex` against `strings.LastIndex`, and the client's base URL

`Query` strips the port from an `instance` label with its own `lastIndex`, a loop down from
`len(s) - len(sep)` to `0`. Every slice the loop takes lies inside the string, so the loop with
Go's bounds-checked slices never panics and returns what the model returns: the largest
position at which `sep` occurs in `s`, or `-1` when there is none. A position it finds also
keeps `nodeName[:idx]` inside the string.

`NewPrometheusClient` cuts the configured URL before its first `/api/v1/query`; the base URL it
keeps never contains the API path.
-/

namespace MultiResource.Plugin

variable {α : Type}

/-- `sep` occurs in `s` at position `i`: `s` is `pre ++ sep ++ post` with `i` elements before
`sep`. -/
def OccursAt (s sep : List α) (i : ℕ) : Prop :=
  ∃ pre post, s = pre ++ sep ++ post ∧ pre.length = i

/-- An occurrence is an in-range slice equal to `sep`. -/
theorem occursAt_iff {s sep : List α} {i : ℕ} :
    OccursAt s sep i ↔ i + sep.length ≤ s.length ∧ (s.drop i).take sep.length = sep := by
  constructor
  · rintro ⟨pre, post, rfl, rfl⟩
    simp [List.append_assoc]
  · rintro ⟨hlen, htake⟩
    refine ⟨s.take i, s.drop (i + sep.length), ?_, by simp; omega⟩
    calc s = s.take i ++ ((s.drop i).take sep.length ++ (s.drop i).drop sep.length) := by
          rw [List.take_append_drop, List.take_append_drop]
      _ = s.take i ++ sep ++ s.drop (i + sep.length) := by
          rw [htake, List.drop_drop, Nat.add_comm, List.append_assoc]

/-- A slice inside the string does not panic. -/
theorem slice_of_le {s : List α} {i n : ℕ} (h : i + n ≤ s.length) :
    slice s i (i + n) = .ok ((s.drop i).take n) := by
  unfold slice
  rw [if_pos ⟨by omega, by omega, by omega⟩]
  simp

/-- A prefix inside the string does not panic. -/
theorem slice_zero_of_le {s : List α} {n : ℕ} (h : n ≤ s.length) :
    slice s 0 n = .ok (s.take n) := by
  unfold slice
  rw [if_pos ⟨le_rfl, by omega, by omega⟩]
  simp

variable [DecidableEq α]

/-- Whether the separator occurs at a position is decidable. -/
instance (s sep : List α) (i : ℕ) : Decidable (OccursAt s sep i) :=
  decidable_of_iff _ occursAt_iff.symm

/-- The scan down from `n`, with every slice from `n` down in range, returns the largest
occurrence at or below `n`, or `-1` when there is none. -/
theorem lastIndexFrom_spec (s sep : List α) (n : ℕ) (hn : n + sep.length ≤ s.length) :
    (lastIndexFrom s sep n = -1 ∧ ∀ j ≤ n, ¬ OccursAt s sep j) ∨
      ∃ i ≤ n, lastIndexFrom s sep n = i ∧ OccursAt s sep i ∧
        ∀ j ≤ n, OccursAt s sep j → j ≤ i := by
  induction n with
  | zero =>
    by_cases h : (s.drop 0).take sep.length = sep
    · exact .inr ⟨0, le_rfl, if_pos h, occursAt_iff.mpr ⟨hn, h⟩, fun j hj _ => hj⟩
    · refine .inl ⟨if_neg h, fun j hj hocc => h ?_⟩
      obtain rfl := Nat.le_zero.mp hj
      exact (occursAt_iff.mp hocc).2
  | succ n ih =>
    by_cases h : (s.drop (n + 1)).take sep.length = sep
    · exact .inr ⟨n + 1, le_rfl, if_pos h, occursAt_iff.mpr ⟨hn, h⟩, fun j hj _ => hj⟩
    · have below : ∀ j ≤ n + 1, OccursAt s sep j → j ≤ n := fun j hj hocc => by
        rcases Nat.lt_or_eq_of_le hj with hlt | rfl
        · omega
        · exact absurd (occursAt_iff.mp hocc).2 h
      rw [show lastIndexFrom s sep (n + 1) = lastIndexFrom s sep n from if_neg h]
      rcases ih (by omega) with ⟨hneg, hnone⟩ | ⟨i, hi, heq, hocc, hmax⟩
      · exact .inl ⟨hneg, fun j hj hj' => hnone j (below j hj hj') hj'⟩
      · exact .inr ⟨i, by omega, heq, hocc, fun j hj hj' => hmax j (below j hj hj') hj'⟩

/-- `lastIndex` is the largest position at which `sep` occurs in `s`, or `-1` when there is
none. -/
theorem lastIndex_spec (s sep : List α) :
    (lastIndex s sep = -1 ∧ ∀ j, ¬ OccursAt s sep j) ∨
      ∃ i : ℕ, lastIndex s sep = i ∧ OccursAt s sep i ∧ ∀ j, OccursAt s sep j → j ≤ i := by
  have hbound : ∀ j, OccursAt s sep j → j + sep.length ≤ s.length :=
    fun _ hj => (occursAt_iff.mp hj).1
  unfold lastIndex
  split_ifs with hlen
  · have below : ∀ j, OccursAt s sep j → j ≤ s.length - sep.length :=
      fun j hj => by have := hbound j hj; omega
    rcases lastIndexFrom_spec s sep (s.length - sep.length) (by omega) with ⟨hneg, hnone⟩ | ⟨i, -, heq, hocc, hmax⟩
    · exact .inl ⟨hneg, fun j hj => hnone j (below j hj) hj⟩
    · exact .inr ⟨i, heq, hocc, fun j hj => hmax j (below j hj) hj⟩
  · exact .inl ⟨rfl, fun j hj => hlen (by have := hbound j hj; omega)⟩

/-- The port of an exporter's `instance` label starts at its last colon. -/
example : lastIndex "node1:9100".data ":".data = 5 := by decide

/-- With every slice in range the checked scan returns what the model's scan returns. -/
theorem lastIndexCheckedFrom_eq (s sep : List α) (n : ℕ) (hn : n + sep.length ≤ s.length) :
    lastIndexCheckedFrom s sep n = .ok (lastIndexFrom s sep n) := by
  induction n with
  | zero =>
    simp only [lastIndexCheckedFrom, slice_of_le hn, lastIndexFrom, bind, Except.bind]
    rfl
  | succ n ih =>
    simp only [lastIndexCheckedFrom, slice_of_le hn, lastIndexFrom, bind, Except.bind]
    split_ifs
    · rfl
    · exact ih (by omega)

/-- The loop with bounds-checked slices never panics: it returns `lastIndex`. -/
theorem lastIndexChecked_eq (s sep : List α) : lastIndexChecked s sep = .ok (lastIndex s sep) := by
  unfold lastIndexChecked lastIndex
  dsimp only
  by_cases h : sep.length ≤ s.length
  · rw [if_pos (by omega), if_pos h,
      show ((s.length : ℤ) - sep.length).toNat = s.length - sep.length by omega]
    exact lastIndexCheckedFrom_eq s sep (s.length - sep.length) (by omega)
  · rw [if_neg (by omega), if_neg h]

/-- `lastIndex` matches `strings.LastIndex`: it is the largest position at which `sep` occurs
in `s`, or `-1` when there is none; the loop never slices out of range; an empty `sep` is found
at `len(s)` and a longer one nowhere; and a position found keeps `s[:idx]` in range. -/
theorem lastIndex_matches_strings (s sep : List α) :
    ((lastIndex s sep = -1 ∧ ∀ j, ¬ OccursAt s sep j) ∨
      ∃ i : ℕ, lastIndex s sep = i ∧ OccursAt s sep i ∧ ∀ j, OccursAt s sep j → j ≤ i) ∧
    lastIndexChecked s sep = .ok (lastIndex s sep) ∧
    (sep = [] → lastIndex s sep = s.length) ∧
    (s.length < sep.length → lastIndex s sep = -1) ∧
    (lastIndex s sep ≠ -1 → slice s 0 (lastIndex s sep) = .ok (s.take (lastIndex s sep).toNat)) := by
  refine ⟨lastIndex_spec s sep, lastIndexChecked_eq s sep, fun hsep => ?_, fun hlen => ?_,
    fun hne => ?_⟩
  · subst hsep
    have hocc : ∀ j, OccursAt s [] j ↔ j ≤ s.length := fun j => by simp [occursAt_iff]
    rcases lastIndex_spec s [] with ⟨-, hnone⟩ | ⟨i, heq, hi, hmax⟩
    · exact absurd ((hocc 0).mpr (Nat.zero_le _)) (hnone 0)
    · rw [heq, le_antisymm ((hocc i).mp hi) (hmax _ ((hocc _).mpr le_rfl))]
  · unfold lastIndex
    rw [if_neg (by omega)]
  · rcases lastIndex_spec s sep with ⟨hneg, -⟩ | ⟨i, heq, hi, -⟩
    · exact absurd hneg hne
    · have := (occursAt_iff.mp hi).1
      rw [heq, slice_zero_of_le (by omega)]
      simp

/-- The API client's base URL never contains `/api/v1/query`, so the path the library appends
is not doubled: the base is a prefix of the configured URL (`PROMETHEUS_URL` when set, else the
argument), and a URL without the API path is used as it is. -/
theorem prometheusBaseURL_strips_api_path (url envURL : String) :
    contains (prometheusBaseURL url envURL) "/api/v1/query" = false ∧
      (prometheusBaseURL url envURL).data <+: (if envURL ≠ "" then envURL else url).data ∧
      (contains (if envURL ≠ "" then envURL else url) "/api/v1/query" = false →
        prometheusBaseURL url envURL = if envURL ≠ "" then envURL else url) := by
  unfold prometheusBaseURL
  generalize (if envURL ≠ "" then envURL else url) = chosen
  by_cases h : contains chosen "/api/v1/query"
  · simp only [h, if_true]
    exact ⟨infixOf_splitFirst (by decide) _, splitFirst_prefix _ _, by simp⟩
  · simp only [h, if_false]
    exact ⟨by simpa using h, List.prefix_refl _, fun _ => rfl⟩

end MultiResource.Plugin
