import Mathlib.Algebra.BigOperators.Group.List
import MultiResource.Core.Strconv

/-!
# The scheduler's records

`NodeStats`, `PodRequest` and `RunningPod` are declared alike in the plugin, the extender
and the preemptive scheduler; one record stands for the three. A pod is read through the
fields the code reads, and a metrics query is seen from the caller's side: the text of the
query and its outcome, an error or a map from instance labels to samples.

Demands are exact rationals, so the model covers the pods whose I/O annotations the code does
not read as an infinity or NaN: `Pod.ioFinite` carries that, over `annotationValue`, the
reading of an annotation's text that `parseResourceAnnotation` performs.
-/

namespace MultiResource

/-- The six resource dimensions, in the order every check visits them. -/
inductive Resource
  | cpu
  | mem
  | diskRead
  | diskWrite
  | netUp
  | netDown
  deriving DecidableEq, Repr

/-- The dimensions in the order the checks visit them. -/
def Resource.all : List Resource := [.cpu, .mem, .diskRead, .diskWrite, .netUp, .netDown]

/-- `Resource.all` lists every dimension. -/
theorem Resource.mem_all (r : Resource) : r ∈ Resource.all := by
  cases r <;> simp [Resource.all]

/-- A statement about every dimension is one about each of the six. -/
theorem Resource.forall_iff {P : Resource → Prop} :
    (∀ r, P r) ↔ P .cpu ∧ P .mem ∧ P .diskRead ∧ P .diskWrite ∧ P .netUp ∧ P .netDown :=
  ⟨fun h => ⟨h _, h _, h _, h _, h _, h _⟩, fun h r => by cases r <;> simp [h]⟩

/-- `NodeStats`: the capacity and the free capacity of one node in each dimension. -/
structure NodeStats where
  cpuTotal : ℚ
  cpuFree : ℚ
  memTotal : ℚ
  memFree : ℚ
  diskReadTotal : ℚ
  diskReadFree : ℚ
  diskWriteTotal : ℚ
  diskWriteFree : ℚ
  netUpTotal : ℚ
  netUpFree : ℚ
  netDownTotal : ℚ
  netDownFree : ℚ
  deriving DecidableEq, Repr

namespace NodeStats

/-- `var stats NodeStats`: every field zero. -/
def zero : NodeStats := ⟨0, 0, 0, 0, 0, 0, 0, 0, 0, 0, 0, 0⟩

/-- The free capacity of one dimension. -/
def free (s : NodeStats) : Resource → ℚ
  | .cpu => s.cpuFree
  | .mem => s.memFree
  | .diskRead => s.diskReadFree
  | .diskWrite => s.diskWriteFree
  | .netUp => s.netUpFree
  | .netDown => s.netDownFree

/-- The total capacity of one dimension. -/
def total (s : NodeStats) : Resource → ℚ
  | .cpu => s.cpuTotal
  | .mem => s.memTotal
  | .diskRead => s.diskReadTotal
  | .diskWrite => s.diskWriteTotal
  | .netUp => s.netUpTotal
  | .netDown => s.netDownTotal

/-- One dimension lies within the data model's invariant `0 ≤ free ≤ total`. -/
def Bounded (s : NodeStats) (r : Resource) : Prop := 0 ≤ s.free r ∧ s.free r ≤ s.total r

/-- The whole invariant the spec states for a node's stats. -/
def WellFormed (s : NodeStats) : Prop :=
  (∀ r, s.Bounded r) ∧ 0 < s.cpuTotal ∧ 0 < s.memTotal

end NodeStats

/-- `PodRequest`: a pod's demand in each dimension and its priority. -/
structure PodRequest where
  cpu : ℚ
  mem : ℚ
  diskRead : ℚ
  diskWrite : ℚ
  netUp : ℚ
  netDown : ℚ
  priority : ℤ
  deriving DecidableEq, Repr

/-- The demand of one dimension. -/
def PodRequest.demand (d : PodRequest) : Resource → ℚ
  | .cpu => d.cpu
  | .mem => d.mem
  | .diskRead => d.diskRead
  | .diskWrite => d.diskWrite
  | .netUp => d.netUp
  | .netDown => d.netDown

/-- The demand with dimension `r` set to `x` and the others unchanged. -/
def PodRequest.withDemand (d : PodRequest) : Resource → ℚ → PodRequest
  | .cpu, x => { d with cpu := x }
  | .mem, x => { d with mem := x }
  | .diskRead, x => { d with diskRead := x }
  | .diskWrite, x => { d with diskWrite := x }
  | .netUp, x => { d with netUp := x }
  | .netDown, x => { d with netDown := x }

/-- Setting one demand changes that dimension only. -/
@[simp] theorem PodRequest.demand_withDemand (d : PodRequest) (r r' : Resource) (x : ℚ) :
    (d.withDemand r x).demand r' = if r' = r then x else d.demand r' := by
  cases r <;> cases r' <;> rfl

/-- The node state with dimension `r`'s free capacity set to `x` and all else unchanged. -/
def NodeStats.withFree (s : NodeStats) : Resource → ℚ → NodeStats
  | .cpu, x => { s with cpuFree := x }
  | .mem, x => { s with memFree := x }
  | .diskRead, x => { s with diskReadFree := x }
  | .diskWrite, x => { s with diskWriteFree := x }
  | .netUp, x => { s with netUpFree := x }
  | .netDown, x => { s with netDownFree := x }

/-- Setting one free capacity changes that dimension only. -/
@[simp] theorem NodeStats.free_withFree (s : NodeStats) (r r' : Resource) (x : ℚ) :
    (s.withFree r x).free r' = if r' = r then x else s.free r' := by
  cases r <;> cases r' <;> rfl

/-- Setting a free capacity leaves every total alone. -/
@[simp] theorem NodeStats.total_withFree (s : NodeStats) (r r' : Resource) (x : ℚ) :
    (s.withFree r x).total r' = s.total r' := by
  cases r <;> cases r' <;> rfl

/-- `RunningPod`: the projection of a bound pod that preemption reasons about. -/
structure RunningPod where
  name : String
  podNamespace : String
  cpuRequest : ℚ
  memRequest : ℚ
  priority : ℤ
  deriving DecidableEq, Repr

/-- `v1.PodPhase`. -/
inductive PodPhase
  | pending
  | running
  | succeeded
  | failed
  | unknown
  deriving DecidableEq, Repr

/-- A container: its image and its CPU (milli-cores) and memory (bytes) requests, if set. -/
structure Container where
  image : String
  cpuMilli : Option ℕ
  memBytes : Option ℕ
  deriving DecidableEq, Repr

/-- `float64(cpu.MilliValue()) / 1000.0`, zero when the request is absent. -/
def Container.cpuCores (c : Container) : ℚ := (c.cpuMilli.getD 0 : ℚ) / 1000

/-- `float64(mem.Value())`, zero when the request is absent. -/
def Container.memRequest (c : Container) : ℚ := (c.memBytes.getD 0 : ℚ)

/-- The four I/O annotations: the dimension each one sets and its key. -/
def ioAnnotations : List (Resource × String) :=
  [(.diskRead, "scheduler.extender/disk-read"), (.diskWrite, "scheduler.extender/disk-write"),
    (.netUp, "scheduler.extender/net-up"), (.netDown, "scheduler.extender/net-down")]

/-- The number `parseResourceAnnotation` reads from an annotation's text: the text as a
float, else its last character as a unit `K`, `M` or `G` in either case (powers of 1024)
after the rest as a float; `none` where the code falls back to the default. -/
def annotationValue (value : String) : Option GoFloat :=
  match Strconv.parseFloat value with
  | .ok parsedValue => some parsedValue
  | .error _ =>
    if value.data.length > 1 then
      let unit := toUpper ⟨value.data.drop (value.data.length - 1)⟩
      let numPart : String := ⟨value.data.take (value.data.length - 1)⟩
      match Strconv.parseFloat numPart with
      | .ok parsedNum =>
        if unit = "K" then some (parsedNum.mulPos 1024)
        else if unit = "M" then some ((parsedNum.mulPos 1024).mulPos 1024)
        else if unit = "G" then some (((parsedNum.mulPos 1024).mulPos 1024).mulPos 1024)
        else none
      | .error _ => none
    else none

/-- `v1.Pod`, through the fields the schedulers read. -/
structure Pod where
  name : String
  podNamespace : String
  phase : PodPhase
  containers : List Container
  /-- `Spec.Priority`, a nil pointer as `none`. -/
  priority : Option ℤ
  annotations : GoMap String
  /-- No I/O annotation reads as an infinity or NaN. -/
  ioFinite : ∀ r key value, (r, key) ∈ ioAnnotations → annotations.lookup key = some value →
    ∀ v, annotationValue value = some v → v.isFinite

/-- A pod without annotations meets `ioFinite`. -/
theorem Pod.ioFinite_empty : ∀ r key value, (r, key) ∈ ioAnnotations →
    (GoMap.empty : GoMap String).lookup key = some value →
    ∀ v, annotationValue value = some v → v.isFinite :=
  fun _ _ _ _ h => nomatch h

/-- A pod with one annotation, which reads as a finite number, meets `ioFinite`. -/
theorem Pod.ioFinite_single {key value : String} {x : ℚ}
    (h : annotationValue value = some (.finite x)) :
    ∀ r key' value', (r, key') ∈ ioAnnotations →
      (GoMap.empty.insert key value).lookup key' = some value' →
      ∀ v, annotationValue value' = some v → v.isFinite := by
  intro _ key' value' _ hlookup v hv
  rw [GoMap.lookup_insert] at hlookup
  split_ifs at hlookup
  · cases hlookup
    rw [h] at hv
    cases hv
    rfl
  · cases hlookup

/-- The total CPU request of a pod's containers, in cores. -/
def Pod.cpuCores (p : Pod) : ℚ := (p.containers.map Container.cpuCores).sum

/-- The total memory request of a pod's containers, in bytes. -/
def Pod.memRequest (p : Pod) : ℚ := (p.containers.map Container.memRequest).sum

/-- A metrics client seen from its caller: the outcome of each query text. -/
def QueryFn : Type := String → Except String (GoMap ℚ)

/-- Every sample of every successful query is non-negative. -/
def QueryFn.Nonneg (query : QueryFn) : Prop :=
  ∀ q m, query q = .ok m → m.All (0 ≤ ·)

end MultiResource
