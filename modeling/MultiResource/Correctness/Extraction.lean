import MultiResource.Models.Plugin.Filter
import MultiResource.Models.Extender.Resources
import Mathlib.Algebra.Order.BigOperators.Group.List

/-!
# Requirement extraction

An I/O annotation is a number `strconv.ParseFloat` reads as a finite value, or such a number
followed by a `K`, `M` or `G` in either case whose product stays in the `float64` range
(`AnnotationDenotes`). No text `ParseFloat` accepts ends in a unit letter, so the two readings
never compete, and `parseResourceAnnotation` returns exactly the value an annotation denotes,
or the default when it denotes none (`Pod.ioFinite` leaves out the readings that are infinite
or NaN). The plugin takes that value as the demand. The extender then raises it to the floors
its estimator applies for database or web images and for large CPU or memory requests, so it
honours an annotation only when no applicable floor exceeds it. Neither extractor rejects a
negative number: CPU and memory demands are never negative, and an I/O demand is negative
only when its annotation denotes a negative number.
-/

namespace MultiResource

/-! ## The annotation grammar -/

/-- The unit suffixes: `K`, `M` and `G` in either case, for 2^10, 2^20 and 2^30. -/
def unitMultiplier : Char → Option ℚ
  | 'K' | 'k' => some 1024
  | 'M' | 'm' => some (1024 * 1024)
  | 'G' | 'g' => some (1024 * 1024 * 1024)
  | _ => none

/-- The value an annotation denotes: a finite number `strconv.ParseFloat` reads, or such a
number followed by a unit suffix, the product staying in range. -/
inductive AnnotationDenotes : String → ℚ → Prop
  | plain {value : String} {v : ℚ} : Strconv.parseFloat value = .ok (.finite v) →
      AnnotationDenotes value v
  | suffixed {num : String} {c : Char} {n m : ℚ} : Strconv.parseFloat num = .ok (.finite n) →
      unitMultiplier c = some m → InRange (n * m) → AnnotationDenotes (num.push c) (n * m)

/-! ## The unit suffix -/

/-- The unit letters. -/
theorem unitMultiplier_isSome {c : Char} {m : ℚ} (hc : unitMultiplier c = some m) :
    c = 'K' ∨ c = 'k' ∨ c = 'M' ∨ c = 'm' ∨ c = 'G' ∨ c = 'g' := by
  unfold unitMultiplier at hc
  split at hc <;> simp_all

/-- A unit letter ends no float literal and no spelling of an infinity or NaN, so a suffixed
annotation is never read as a plain number. -/
theorem parseFloat_push_unit {num : String} {c : Char} {m : ℚ} (hc : unitMultiplier c = some m) :
    Strconv.parseFloat ⟨num.data ++ [c]⟩ = .error .invalid := by
  apply Strconv.parseFloat_append_invalid <;>
    rcases unitMultiplier_isSome hc with rfl | rfl | rfl | rfl | rfl | rfl <;> decide

/-- Multiplying by `a` and then by `b`, both at least one, is multiplying by `a * b`: the
product leaves the range exactly when the last one does. -/
theorem GoFloat.mulPos_mulPos (v : GoFloat) {a b : ℚ} (ha : 1 ≤ a) (hb : 1 ≤ b) :
    (v.mulPos a).mulPos b = v.mulPos (a * b) := by
  cases v with
  | inf neg => rfl
  | nan => rfl
  | finite x =>
    have hsign : decide (x * a < 0) = decide (x < 0) := decide_eq_decide.mpr
      ⟨fun h => lt_of_not_le fun hx => (mul_nonneg hx (by linarith)).not_lt h,
        fun h => mul_neg_of_neg_of_pos h (by linarith)⟩
    have hmono : |x * a| ≤ |x * a * b| := by
      rw [abs_mul (x * a) b, abs_of_pos (by linarith : (0 : ℚ) < b)]
      exact le_mul_of_one_le_right (abs_nonneg _) hb
    by_cases hab : InRange (x * (a * b))
    · have ha' : InRange (x * a) := lt_of_le_of_lt hmono (by rwa [mul_assoc])
      simp [GoFloat.mulPos, ha', hab, mul_assoc]
    · have hab' : ¬InRange (x * a * b) := by rwa [mul_assoc]
      by_cases ha' : InRange (x * a) <;> simp [GoFloat.mulPos, ha', hab, hab', hsign]

/-- The characters `Char.toUpper` sends to `u` are `u` and its lower-case form. -/
theorem toUpper_char_eq_cases {c u : Char} (h : c.toUpper = u) : c = u ∨ c = u.toLower := by
  have hletters : ∀ n < 123, 97 ≤ n → Char.ofNat n = (Char.ofNat (n - 32)).toLower := by decide
  unfold Char.toUpper at h
  dsimp only at h
  split_ifs at h with hn
  · right
    calc c = Char.ofNat c.toNat := (Char.ofNat_toNat c).symm
      _ = (Char.ofNat (c.toNat - 32)).toLower := hletters _ (by omega) hn.1
      _ = u.toLower := by rw [h]
  · exact .inl h

/-- `strings.ToUpper` of one character is the character's upper case. -/
theorem toUpper_singleton_eq {c u : Char} : toUpper ⟨[c]⟩ = ⟨[u]⟩ ↔ c.toUpper = u := by
  simp [toUpper, String.ext_iff]

/-- The code's dispatch on the upper-cased last character multiplies by `unitMultiplier`. -/
theorem unitDispatch_eq (c : Char) (v : GoFloat) :
    (if toUpper ⟨[c]⟩ = "K" then some (v.mulPos 1024)
      else if toUpper ⟨[c]⟩ = "M" then some ((v.mulPos 1024).mulPos 1024)
      else if toUpper ⟨[c]⟩ = "G" then some (((v.mulPos 1024).mulPos 1024).mulPos 1024)
      else none) = (unitMultiplier c).map v.mulPos := by
  have hM : (v.mulPos 1024).mulPos 1024 = v.mulPos (1024 * 1024) :=
    v.mulPos_mulPos (by norm_num) (by norm_num)
  have hG : ((v.mulPos 1024).mulPos 1024).mulPos 1024 = v.mulPos (1024 * 1024 * 1024) := by
    rw [hM, GoFloat.mulPos_mulPos _ (by norm_num) (by norm_num)]
  rw [hG, hM]
  by_cases hunit : c = 'K' ∨ c = 'k' ∨ c = 'M' ∨ c = 'm' ∨ c = 'G' ∨ c = 'g'
  · rcases hunit with rfl | rfl | rfl | rfl | rfl | rfl <;> simp +decide [unitMultiplier]
  · have hnone : unitMultiplier c = none := by
      unfold unitMultiplier
      split <;> simp_all
    have hne : ∀ u : Char, toUpper ⟨[c]⟩ = ⟨[u]⟩ → c = u ∨ c = u.toLower :=
      fun u h => toUpper_char_eq_cases (toUpper_singleton_eq.mp h)
    have hK : toUpper ⟨[c]⟩ ≠ "K" := fun h => hunit ((hne 'K' h).imp_right fun h => .inl h)
    have hM : toUpper ⟨[c]⟩ ≠ "M" := fun h =>
      hunit (.inr (.inr ((hne 'M' h).imp_right fun h => .inl h)))
    have hG : toUpper ⟨[c]⟩ ≠ "G" := fun h =>
      hunit (.inr (.inr (.inr (.inr (hne 'G' h)))))
    rw [if_neg hK, if_neg hM, if_neg hG, hnone]
    rfl

/-! ## `parseResourceAnnotation` against the grammar -/

/-- Past the plain reading, `annotationValue` reads the last character as a unit through
`unitMultiplier`. -/
theorem annotationValue_of_suffix {l : List Char} {c : Char} {err : Strconv.NumError}
    (hplain : Strconv.parseFloat ⟨l ++ [c]⟩ = .error err) (hl : l ≠ []) :
    annotationValue ⟨l ++ [c]⟩ =
      match Strconv.parseFloat ⟨l⟩ with
      | .ok n => (unitMultiplier c).map n.mulPos
      | .error _ => none := by
  have hlen : (l ++ [c]).length > 1 := by simpa using List.length_pos.mpr hl
  unfold annotationValue
  simp only [hplain]
  rw [if_pos hlen]
  simp only [List.length_append, List.length_singleton, Nat.add_sub_cancel, List.drop_left',
    List.take_left']
  cases Strconv.parseFloat ⟨l⟩ <;> simp [unitDispatch_eq]

/-- An annotation that denotes a value is read as that value. -/
theorem annotationValue_of_denotes {value : String} {v : ℚ} (hv : AnnotationDenotes value v) :
    annotationValue value = some (.finite v) := by
  cases hv with
  | plain h => simp [annotationValue, h]
  | @suffixed num c n m hn hc hm =>
    have hl : num.data ≠ [] := fun h => by
      obtain ⟨data⟩ := num
      subst h
      rw [Strconv.parseFloat_empty] at hn
      cases hn
    rw [show num.push c = ⟨num.data ++ [c]⟩ from rfl,
      annotationValue_of_suffix (parseFloat_push_unit hc) hl, hn]
    simp [hc, GoFloat.mulPos, hm]

/-- A text denotes one value at most. -/
theorem AnnotationDenotes.unique {value : String} {v v' : ℚ} (h : AnnotationDenotes value v)
    (h' : AnnotationDenotes value v') : v = v' := by
  simpa using (annotationValue_of_denotes h).symm.trans (annotationValue_of_denotes h')

/-- A finite reading is a value the annotation denotes. -/
theorem denotes_of_annotationValue {value : String} {v : ℚ}
    (h : annotationValue value = some (.finite v)) : AnnotationDenotes value v := by
  cases hplain : Strconv.parseFloat value with
  | ok g =>
    simp only [annotationValue, hplain, Option.some.injEq] at h
    exact .plain (hplain.trans (congrArg _ h))
  | error err =>
    obtain ⟨data⟩ := value
    rcases List.eq_nil_or_concat data with rfl | ⟨l, c, rfl⟩
    · simp [annotationValue, hplain] at h
    rw [List.concat_eq_append] at hplain h ⊢
    by_cases hl : l = []
    · subst hl
      rw [List.nil_append] at hplain h
      simp [annotationValue, hplain] at h
    rw [annotationValue_of_suffix hplain hl] at h
    cases hn : Strconv.parseFloat ⟨l⟩ with
    | error _ => simp [hn] at h
    | ok g =>
      rw [hn] at h
      obtain ⟨m, hm, hg⟩ := Option.map_eq_some'.mp h
      cases g with
      | finite n =>
        dsimp only [GoFloat.mulPos] at hg
        split_ifs at hg with hr
        cases hg
        exact .suffixed hn hm hr
      | inf neg => cases hg
      | nan => cases hg

/-- An annotation that denotes a value is read as that value, whatever the default. -/
theorem parseResourceAnnotation_of_denotes {pod : Pod} {key value : String} {v : ℚ} (d : ℚ)
    (hlookup : pod.annotations.lookup key = some value) (hv : AnnotationDenotes value v) :
    parseResourceAnnotation pod key d = v := by
  simp [ parseResourceAnnotation, hlookup, annotationValue_of_denotes hv]

/-- For an I/O key, whatever `parseResourceAnnotation` returns is the default or a value the
annotation denotes. -/
theorem parseResourceAnnotation_cases (pod : Pod) {r : Resource} {key : String}
    (hkey : (r, key) ∈ ioAnnotations) (d : ℚ) :
    parseResourceAnnotation pod key d = d ∨ ∃ value v, pod.annotations.lookup key = some value ∧
      AnnotationDenotes value v ∧ parseResourceAnnotation pod key d = v := by
  cases hlookup : pod.annotations.lookup key with
  | none => exact .inl (parseResourceAnnotation_of_lookup_none d hlookup)
  | some value =>
    cases hread : annotationValue value with
    | none =>
      left
      simp [ parseResourceAnnotation, hlookup, hread]
    | some g =>
      rw [GoFloat.eq_finite_of_isFinite (pod.ioFinite r key value hkey hlookup g hread)] at hread
      have hv := denotes_of_annotationValue hread
      exact .inr ⟨value, _, rfl, hv, parseResourceAnnotation_of_denotes d hlookup hv⟩

/-! ## The extractors' demands -/

/-- A pod's CPU request is never negative. -/
theorem Pod.cpuCores_nonneg (pod : Pod) : 0 ≤ pod.cpuCores :=
  List.sum_nonneg fun _ hx => by
    obtain ⟨c, -, rfl⟩ := List.mem_map.mp hx
    exact div_nonneg (Nat.cast_nonneg _) (by norm_num)

/-- A pod's memory request is never negative. -/
theorem Pod.memRequest_nonneg (pod : Pod) : 0 ≤ pod.memRequest :=
  List.sum_nonneg fun _ hx => by
    obtain ⟨c, -, rfl⟩ := List.mem_map.mp hx
    exact Nat.cast_nonneg _

/-- The plugin reads each I/O demand from its annotation, with a non-negative default. -/
theorem Plugin.demand_of_ioAnnotation (pod : Pod) {r : Resource} {key : String}
    (h : (r, key) ∈ ioAnnotations) :
    ∃ d, 0 ≤ d ∧ (Plugin.extractPodRequirements pod).demand r = parseResourceAnnotation pod key d := by
  have hcpu := pod.cpuCores_nonneg
  simp only [ioAnnotations, List.mem_cons, Prod.mk.injEq, List.not_mem_nil, or_false] at h
  rcases h with ⟨rfl, rfl⟩ | ⟨rfl, rfl⟩ | ⟨rfl, rfl⟩ | ⟨rfl, rfl⟩ <;>
    exact ⟨_, by linarith, rfl⟩

/-- A container whose image names a database engine. -/
def databaseImage (c : Container) : Bool :=
  let imageLower := toLower c.image
  contains imageLower "mysql" || contains imageLower "postgres" ||
    contains imageLower "mongo" || contains imageLower "redis"

/-- A container whose image names a web or API server. -/
def webImage (c : Container) : Bool :=
  let imageLower := toLower c.image
  contains imageLower "nginx" || contains imageLower "apache" ||
    contains imageLower "node" || contains imageLower "tomcat"

/-- The floors the extender's estimator raises an I/O demand to: the image floor when some
container runs a database (disk) or web server (network), then the tier floor of the pod's
CPU (disk) or memory (network) request. -/
def ioFloors (pod : Pod) : Resource → List ℚ
  | .diskRead => (if pod.containers.any databaseImage then [50 * 1024 * 1024] else []) ++
      if pod.cpuCores ≥ 4.0 then [100 * 1024 * 1024]
      else if pod.cpuCores ≥ 2.0 then [50 * 1024 * 1024] else []
  | .diskWrite => (if pod.containers.any databaseImage then [20 * 1024 * 1024] else []) ++
      if pod.cpuCores ≥ 4.0 then [50 * 1024 * 1024]
      else if pod.cpuCores ≥ 2.0 then [25 * 1024 * 1024] else []
  | .netUp => (if pod.containers.any webImage then [20 * 1024 * 1024] else []) ++
      if pod.memRequest ≥ 4 * 1024 * 1024 * 1024 then [50 * 1024 * 1024]
      else if pod.memRequest ≥ 1 * 1024 * 1024 * 1024 then [20 * 1024 * 1024] else []
  | .netDown => (if pod.containers.any webImage then [40 * 1024 * 1024] else []) ++
      if pod.memRequest ≥ 4 * 1024 * 1024 * 1024 then [100 * 1024 * 1024]
      else if pod.memRequest ≥ 1 * 1024 * 1024 * 1024 then [40 * 1024 * 1024] else []
  | .cpu | .mem => []

/-- The extender's `floatMax` is `max`. -/
theorem Extender.floatMax_eq_max (a b : ℚ) : Extender.floatMax a b = max a b := by
  unfold Extender.floatMax
  split_ifs with h
  · exact (max_eq_left h.le).symm
  · exact (max_eq_right (not_lt.mp h)).symm

/-- One container's image floors. -/
theorem Extender.imageFloors_eq (a b c d : ℚ) (ct : Container) :
    Extender.imageFloors (a, b, c, d) ct =
      (if databaseImage ct then max a (50 * 1024 * 1024) else a,
        if databaseImage ct then max b (20 * 1024 * 1024) else b,
        if webImage ct then max c (20 * 1024 * 1024) else c,
        if webImage ct then max d (40 * 1024 * 1024) else d) := by
  unfold Extender.imageFloors databaseImage webImage
  simp only [Extender.floatMax_eq_max]
  split_ifs <;> rfl

/-- The image loop raises each dimension once, however many containers match. -/
theorem Extender.foldl_imageFloors (cs : List Container) (a b c d : ℚ) :
    cs.foldl Extender.imageFloors (a, b, c, d) =
      (if cs.any databaseImage then max a (50 * 1024 * 1024) else a,
        if cs.any databaseImage then max b (20 * 1024 * 1024) else b,
        if cs.any webImage then max c (20 * 1024 * 1024) else c,
        if cs.any webImage then max d (40 * 1024 * 1024) else d) := by
  induction cs generalizing a b c d with
  | nil => rfl
  | cons ct cs ih =>
    rw [List.foldl_cons, Extender.imageFloors_eq, ih]
    cases hdb : databaseImage ct <;> cases hweb : webImage ct <;>
      simp only [List.any_cons, hdb, hweb, Bool.true_or, Bool.false_or, Bool.false_eq_true,
        ↓reduceIte, max_assoc, max_self, ite_self]

/-- An image floor as a fold. -/
theorem ite_max_eq_foldl (c : Prop) [Decidable c] (a f : ℚ) :
    (if c then max a f else a) = (if c then [f] else []).foldl max a := by
  split <;> rfl

/-- A tier's pair of floors as two folds. -/
theorem ite_tiers_eq_foldl (c4 c2 : Prop) [Decidable c4] [Decidable c2] (a b fa4 fb4 fa2 fb2 : ℚ) :
    (if c4 then (Extender.floatMax a fa4, Extender.floatMax b fb4)
      else if c2 then (Extender.floatMax a fa2, Extender.floatMax b fb2) else (a, b)) =
      ((if c4 then [fa4] else if c2 then [fa2] else []).foldl max a,
        (if c4 then [fb4] else if c2 then [fb2] else []).foldl max b) := by
  simp only [Extender.floatMax_eq_max]
  split_ifs <;> rfl

/-- The extender's estimate: each I/O demand is its annotation, or the default, raised to the
floors that apply. -/
theorem Extender.estimateIORequirements_eq (pod : Pod) :
    Extender.estimateIORequirements pod =
      ((ioFloors pod .diskRead).foldl max <|
          parseResourceAnnotation pod "scheduler.extender/disk-read" (10 * 1024 * 1024),
        (ioFloors pod .diskWrite).foldl max <|
          parseResourceAnnotation pod "scheduler.extender/disk-write" (5 * 1024 * 1024),
        (ioFloors pod .netUp).foldl max <|
          parseResourceAnnotation pod "scheduler.extender/net-up" (1 * 1024 * 1024),
        (ioFloors pod .netDown).foldl max <|
          parseResourceAnnotation pod "scheduler.extender/net-down" (2 * 1024 * 1024)) := by
  unfold Extender.estimateIORequirements
  dsimp only
  rw [Extender.foldl_imageFloors]
  simp only [ite_max_eq_foldl, ite_tiers_eq_foldl, ioFloors, List.foldl_append]

/-- The extender reads each I/O demand from its annotation, with a non-negative default, and
raises it to the floors that apply. -/
theorem Extender.demand_of_ioAnnotation (pod : Pod) {r : Resource} {key : String}
    (h : (r, key) ∈ ioAnnotations) :
    ∃ d, 0 ≤ d ∧ (Extender.extractPodRequirements pod).demand r =
      ((ioFloors pod r).foldl max <| parseResourceAnnotation pod key d) := by
  have hest := Extender.estimateIORequirements_eq pod
  simp only [ioAnnotations, List.mem_cons, Prod.mk.injEq, List.not_mem_nil, or_false] at h
  rcases h with ⟨rfl, rfl⟩ | ⟨rfl, rfl⟩ | ⟨rfl, rfl⟩ | ⟨rfl, rfl⟩
  · exact ⟨_, by norm_num, congrArg (·.1) hest⟩
  · exact ⟨_, by norm_num, congrArg (·.2.1) hest⟩
  · exact ⟨_, by norm_num, congrArg (·.2.2.1) hest⟩
  · exact ⟨_, by norm_num, congrArg (·.2.2.2) hest⟩

/-- Raising a value to floors never lowers it. -/
theorem le_foldl_max (l : List ℚ) (v : ℚ) : v ≤ l.foldl max v := by
  induction l generalizing v with
  | nil => exact le_rfl
  | cons f fs ih => exact (le_max_left v f).trans (ih _)

/-- Raising a value to floors leaves it alone exactly when no floor exceeds it. -/
theorem foldl_max_eq_self_iff (l : List ℚ) (v : ℚ) : l.foldl max v = v ↔ ∀ f ∈ l, f ≤ v := by
  induction l generalizing v with
  | nil => simp
  | cons f fs ih =>
    rw [List.foldl_cons, List.forall_mem_cons]
    constructor
    · intro h
      have hmax : max v f = v := le_antisymm ((le_foldl_max fs _).trans h.le) (le_max_left v f)
      rw [hmax] at h
      exact ⟨max_eq_left_iff.mp hmax, (ih v).mp h⟩
    · rintro ⟨hf, hfs⟩
      rw [max_eq_left hf]
      exact (ih v).mpr hfs

/-! ## What the annotations decide -/

/-- An I/O annotation that denotes `v` sets the plugin's demand to `v`. The extender raises
`v` to the floors that apply, so it keeps `v` exactly when none of them exceeds it. -/
theorem annotation_sets_demand (pod : Pod) (r : Resource) (key value : String) (v : ℚ)
    (hr : (r, key) ∈ ioAnnotations) (hlookup : pod.annotations.lookup key = some value)
    (hv : AnnotationDenotes value v) :
    (Plugin.extractPodRequirements pod).demand r = v ∧
      (Extender.extractPodRequirements pod).demand r = (ioFloors pod r).foldl max v ∧
      ((Extender.extractPodRequirements pod).demand r = v ↔ ∀ f ∈ ioFloors pod r, f ≤ v) := by
  obtain ⟨d, -, hplugin⟩ := Plugin.demand_of_ioAnnotation pod hr
  obtain ⟨d', -, hext⟩ := Extender.demand_of_ioAnnotation pod hr
  rw [parseResourceAnnotation_of_denotes d hlookup hv] at hplugin
  rw [parseResourceAnnotation_of_denotes d' hlookup hv] at hext
  exact ⟨hplugin, hext, hext ▸ foldl_max_eq_self_iff _ v⟩

/-- `ParseFloat` reads `1` as one. -/
theorem parseFloat_one : Strconv.parseFloat "1" = .ok (.finite 1) :=
  Strconv.parseFloat_eq_ok_finite (l := ⟨false, false, ['1'], [], 0, []⟩) (by decide) (by decide)
    rfl (by decide) (by norm_num [Strconv.Literal.value, Strconv.applySign,
      show Strconv.digitsValue 10 ['1'] = 1 by decide]) (by norm_num [InRange])

/-- `1M` denotes one mebibyte. -/
theorem denotes_one_mebibyte : AnnotationDenotes "1M" (1 * (1024 * 1024)) :=
  show AnnotationDenotes ("1".push 'M') _ from .suffixed parseFloat_one rfl (by norm_num [InRange])

/-- A MySQL pod that declares 1 MiB/s of disk reads. -/
def mysqlPod : Pod :=
  ⟨"db", "default", .pending, [⟨"mysql:8.0", none, none⟩], none,
    GoMap.empty.insert "scheduler.extender/disk-read" "1M",
    Pod.ioFinite_single (annotationValue_of_denotes denotes_one_mebibyte)⟩

/-- The MySQL pod's only disk-read floor is the database floor. -/
theorem ioFloors_mysqlPod : ioFloors mysqlPod .diskRead = [50 * 1024 * 1024] := by
  have hdb : databaseImage ⟨"mysql:8.0", none, none⟩ = true := by decide
  norm_num [ioFloors, hdb, mysqlPod, Pod.cpuCores, Container.cpuCores]

/-- The MySQL pod meets the hypotheses: its disk-read annotation `1M` denotes 1 MiB/s. -/
theorem annotation_sets_demand_mysqlPod :
    ((Resource.diskRead, "scheduler.extender/disk-read") ∈ ioAnnotations ∧
      mysqlPod.annotations.lookup "scheduler.extender/disk-read" = some "1M" ∧
      AnnotationDenotes "1M" (1 * (1024 * 1024))) ∧
    ((Plugin.extractPodRequirements mysqlPod).demand .diskRead = 1 * (1024 * 1024) ∧
      (Extender.extractPodRequirements mysqlPod).demand .diskRead =
        (ioFloors mysqlPod .diskRead).foldl max (1 * (1024 * 1024)) ∧
      ((Extender.extractPodRequirements mysqlPod).demand .diskRead = 1 * (1024 * 1024) ↔
        ∀ f ∈ ioFloors mysqlPod .diskRead, f ≤ 1 * (1024 * 1024))) := by
  have hr : (Resource.diskRead, "scheduler.extender/disk-read") ∈ ioAnnotations := by
    simp [ioAnnotations]
  have hlookup : mysqlPod.annotations.lookup "scheduler.extender/disk-read" = some "1M" := by
    simp [mysqlPod]
  exact ⟨⟨hr, hlookup, denotes_one_mebibyte⟩,
    annotation_sets_demand mysqlPod _ _ _ _ hr hlookup denotes_one_mebibyte⟩

/-- The extender does not honour every annotation: the MySQL pod's declared 1 MiB/s of disk
reads becomes the database floor of 50 MiB/s. -/
theorem annotation_raised_to_floor :
    ¬ ∀ (pod : Pod) (r : Resource) (key value : String) (v : ℚ), (r, key) ∈ ioAnnotations →
      pod.annotations.lookup key = some value → AnnotationDenotes value v →
      (Plugin.extractPodRequirements pod).demand r = v ∧
        (Extender.extractPodRequirements pod).demand r = v := by
  intro h
  have hr : (Resource.diskRead, "scheduler.extender/disk-read") ∈ ioAnnotations := by
    simp [ioAnnotations]
  have hlookup : mysqlPod.annotations.lookup "scheduler.extender/disk-read" = some "1M" := by
    simp [mysqlPod]
  have hhonoured := (h mysqlPod _ _ _ _ hr hlookup denotes_one_mebibyte).2
  obtain ⟨d, -, hext⟩ := Extender.demand_of_ioAnnotation mysqlPod hr
  rw [hext, parseResourceAnnotation_of_denotes d hlookup denotes_one_mebibyte,
    ioFloors_mysqlPod] at hhonoured
  norm_num at hhonoured

/-- An I/O demand whose annotation denotes nothing negative is never negative. -/
theorem parseResourceAnnotation_nonneg {pod : Pod} {r : Resource} {key : String} {d : ℚ}
    (hkey : (r, key) ∈ ioAnnotations) (hd : 0 ≤ d)
    (h : ∀ value v, pod.annotations.lookup key = some value → AnnotationDenotes value v → 0 ≤ v) :
    0 ≤ parseResourceAnnotation pod key d := by
  rcases parseResourceAnnotation_cases pod hkey d with heq | ⟨value, v, hlookup, hv, heq⟩
  · rw [heq]
    exact hd
  · rw [heq]
    exact h value v hlookup hv

/-- Both extractors' demands are non-negative in every dimension, except an I/O dimension
whose annotation denotes a negative number: CPU and memory requests cannot be negative, and
every default and floor is positive. -/
theorem demand_nonneg_unless_negative_annotation (pod : Pod) (r : Resource)
    (h : ∀ key value v, (r, key) ∈ ioAnnotations → pod.annotations.lookup key = some value →
      AnnotationDenotes value v → 0 ≤ v) :
    0 ≤ (Plugin.extractPodRequirements pod).demand r ∧
      0 ≤ (Extender.extractPodRequirements pod).demand r := by
  have io : ∀ key, (r, key) ∈ ioAnnotations →
      0 ≤ (Plugin.extractPodRequirements pod).demand r ∧
        0 ≤ (Extender.extractPodRequirements pod).demand r := fun key hr => by
    obtain ⟨d, hd, hplugin⟩ := Plugin.demand_of_ioAnnotation pod hr
    obtain ⟨d', hd', hext⟩ := Extender.demand_of_ioAnnotation pod hr
    rw [hplugin, hext]
    exact ⟨parseResourceAnnotation_nonneg hr hd (h key · · hr),
      (parseResourceAnnotation_nonneg hr hd' (h key · · hr)).trans (le_foldl_max _ _)⟩
  cases r with
  | cpu => exact ⟨pod.cpuCores_nonneg, pod.cpuCores_nonneg⟩
  | mem => exact ⟨pod.memRequest_nonneg, pod.memRequest_nonneg⟩
  | diskRead => exact io "scheduler.extender/disk-read" (by simp [ioAnnotations])
  | diskWrite => exact io "scheduler.extender/disk-write" (by simp [ioAnnotations])
  | netUp => exact io "scheduler.extender/net-up" (by simp [ioAnnotations])
  | netDown => exact io "scheduler.extender/net-down" (by simp [ioAnnotations])

/-- The MySQL pod meets the hypothesis for disk reads: its one annotation, `1M`, denotes
1 MiB/s. -/
theorem demand_nonneg_unless_negative_annotation_mysqlPod :
    (∀ key value v, (Resource.diskRead, key) ∈ ioAnnotations →
      mysqlPod.annotations.lookup key = some value → AnnotationDenotes value v → 0 ≤ v) ∧
    (0 ≤ (Plugin.extractPodRequirements mysqlPod).demand .diskRead ∧
      0 ≤ (Extender.extractPodRequirements mysqlPod).demand .diskRead) := by
  have h : ∀ key value v, (Resource.diskRead, key) ∈ ioAnnotations →
      mysqlPod.annotations.lookup key = some value → AnnotationDenotes value v → 0 ≤ v := by
    intro key value v hkey hlookup hv
    simp only [ioAnnotations, List.mem_cons, Prod.mk.injEq, List.not_mem_nil, or_false,
      reduceCtorEq, false_and, true_and] at hkey
    subst hkey
    simp only [mysqlPod, GoMap.lookup_insert, if_true, Option.some.injEq] at hlookup
    subst hlookup
    rw [hv.unique denotes_one_mebibyte]
    norm_num
  exact ⟨h, demand_nonneg_unless_negative_annotation _ _ h⟩

/-- `ParseFloat` reads `-5` as minus five. -/
theorem parseFloat_neg_five : Strconv.parseFloat "-5" = .ok (.finite (-5)) :=
  Strconv.parseFloat_eq_ok_finite (l := ⟨true, false, ['5'], [], 0, []⟩) (by decide) (by decide)
    rfl (by decide) (by norm_num [Strconv.Literal.value, Strconv.applySign,
      show Strconv.digitsValue 10 ['5'] = 5 by decide]) (by norm_num [InRange])

/-- `-5M` denotes minus five mebibytes. -/
theorem denotes_neg_five_mebibytes : AnnotationDenotes "-5M" (-5 * (1024 * 1024)) :=
  show AnnotationDenotes ("-5".push 'M') _ from
    .suffixed parseFloat_neg_five rfl (by norm_num [InRange])

/-- A pod with no containers whose disk-read annotation is `-5M`. -/
def negativeReadPod : Pod :=
  ⟨"web", "default", .pending, [], none, GoMap.empty.insert "scheduler.extender/disk-read" "-5M",
    Pod.ioFinite_single (annotationValue_of_denotes denotes_neg_five_mebibytes)⟩

/-- A negative annotation is not treated as invalid: `-5M` becomes a demand of -5 MiB/s in
both extractors. -/
theorem negative_annotation_accepted :
    ¬ ∀ (pod : Pod) (r : Resource), 0 ≤ (Plugin.extractPodRequirements pod).demand r ∧
      0 ≤ (Extender.extractPodRequirements pod).demand r := by
  intro h
  have hr : (Resource.diskRead, "scheduler.extender/disk-read") ∈ ioAnnotations := by
    simp [ioAnnotations]
  have hlookup : negativeReadPod.annotations.lookup "scheduler.extender/disk-read" =
      some "-5M" := by
    simp [negativeReadPod]
  obtain ⟨d, -, hplugin⟩ := Plugin.demand_of_ioAnnotation negativeReadPod hr
  have hneg := (h negativeReadPod .diskRead).1
  rw [hplugin, parseResourceAnnotation_of_denotes d hlookup denotes_neg_five_mebibytes] at hneg
  norm_num at hneg

end MultiResource
