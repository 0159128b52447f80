import MultiResource.Core.Strconv
import MultiResource.Core.Types

/-!
# Code the front ends share

The plugin and the extender parse I/O annotations with the same function; the extender and
the preemptive scheduler match metrics instances to a node and compute the dominant resource
share with the same loops. Each is stated once here.
-/

namespace MultiResource

/-- `parseResourceAnnotation(pod, key, defaultValue)`: the annotation's reading
(`annotationValue`), else the default. For the I/O keys the reading is finite
(`Pod.ioFinite`), so the rational is the float the code returns. -/
def parseResourceAnnotation (pod : Pod) (key : String) (defaultValue : ℚ) : ℚ :=
  match pod.annotations.lookup key with
  | none => defaultValue
  | some value => ((annotationValue value).getD (.finite defaultValue)).toRat

/-- An absent annotation gives the default. -/
theorem parseResourceAnnotation_of_lookup_none {pod : Pod} {key : String} (d : ℚ)
    (h : pod.annotations.lookup key = none) : parseResourceAnnotation pod key d = d := by
  simp [ parseResourceAnnotation, h]

/-- `strings.Contains(instance, nodeName) || strings.Contains(nodeName, host(instance))`. -/
def instanceMatches (nodeName inst : String) : Bool :=
  contains inst nodeName || contains nodeName (hostPart inst)

/-- The lookup every single-valued query repeats: the key `nodeName:9100`, else the first
instance that matches the node, else whichever sample the `range` loop visits first. -/
def matchInstance (m : GoMap ℚ) (nodeName : String) : Option ℚ :=
  match m.lookup (nodeName ++ ":9100") with
  | some v => some v
  | none =>
    match m.entries.find? (fun e => instanceMatches nodeName e.1) with
    | some e => some e.2
    | none => m.entries.head?.map Prod.snd

/-- An empty result matches nothing. -/
@[simp] theorem matchInstance_empty (nodeName : String) :
    matchInstance GoMap.empty nodeName = none := rfl

/-- Whatever the lookup finds is one of the map's samples. -/
theorem matchInstance_mem {m : GoMap ℚ} {nodeName : String} {v : ℚ}
    (h : matchInstance m nodeName = some v) : ∃ k, (k, v) ∈ m.entries := by
  unfold matchInstance at h
  split at h
  · cases h
    exact ⟨_, GoMap.mem_of_lookupEntry ‹_›⟩
  · split at h
    · cases h
      exact ⟨_, List.mem_of_find?_eq_some ‹_›⟩
    · obtain ⟨e, he, rfl⟩ := Option.map_eq_some'.mp h
      exact ⟨e.1, List.mem_of_mem_head? he⟩

/-- A non-negative result gives a non-negative lookup. -/
theorem matchInstance_nonneg {m : GoMap ℚ} (hm : m.All (0 ≤ ·)) {nodeName : String} {v : ℚ}
    (h : matchInstance m nodeName = some v) : 0 ≤ v := by
  obtain ⟨k, hk⟩ := matchInstance_mem h
  exact hm _ hk

/-- The dominant-share loop: the largest `req / free` over the dimensions with nonzero
demand, starting from zero. A share `req / 0` is an infinity in `float64`; `infiniteShare`
tells when one is `+Inf`, and otherwise this is the loop's value. -/
def dominantShare (pod : PodRequest) (stats : NodeStats) : ℚ :=
  Resource.all.foldl (fun ds r =>
    if pod.demand r = 0 then ds
    else if pod.demand r / stats.free r > ds then pod.demand r / stats.free r else ds) 0

/-- Some dimension has demand and no free capacity: its share `req / 0` is `+Inf`, which no
later share exceeds, so the dominant share is `+Inf`. A negative demand over no capacity gives
`-Inf`, which never becomes dominant. -/
def infiniteShare (pod : PodRequest) (stats : NodeStats) : Bool :=
  Resource.all.any fun r => 0 < pod.demand r ∧ stats.free r = 0

/-- With free capacity in every dimension no share is infinite. -/
theorem infiniteShare_eq_false {pod : PodRequest} {stats : NodeStats}
    (h : ∀ r, 0 < pod.demand r → stats.free r ≠ 0) : infiniteShare pod stats = false := by
  simp only [infiniteShare, List.any_eq_false, decide_eq_true_eq, not_and]
  exact fun r _ => h r

end MultiResource
