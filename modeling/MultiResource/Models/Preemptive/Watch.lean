import MultiResource.Models.Preemptive.Metrics
import MultiResource.Models.Preemptive.Scheduler

/-!
# The preemptive scheduler's watch-and-bind loop

`watchForUnscheduledPods` lists, pass after pass, the pods of this scheduler that have no node;
each one not being deleted gets a node from `findNodeForPod` and is bound to it. `findNodeForPod`
walks the listed nodes in order, skips those not ready or unschedulable, and returns the first
whose fresh stats admit the pod; with preemption enabled it otherwise evicts lower-priority pods
there and returns the node if stats fetched again then admit the pod.

The API server and Prometheus answer each external call of the loop as they are at that moment,
whatever other goroutines and controllers have done meanwhile: a `World` gives the answer to the
loop's `t`-th call. A listing, the queries of one `getNodeStats`, one preemption attempt (its pod
listing and evictions) and a binding are one call each. A run keeps the calls that change the
cluster, evictions and bindings, in order.
-/

namespace MultiResource.Preemptive

/-- `v1.NodeCondition`, through its type and status. -/
structure NodeCondition where
  conditionType : String
  status : String

/-- `v1.Node`, through the fields `findNodeForPod` reads. -/
structure Node where
  name : String
  /-- `Status.Conditions`. -/
  conditions : List NodeCondition
  /-- `Spec.Unschedulable`. -/
  unschedulable : Bool

/-- `isNodeReady(node)`: the first condition of type `Ready` decides, by its status being
`True`; a node without one is not ready. -/
def isNodeReady (node : Node) : Bool :=
  match node.conditions.find? (·.conditionType = "Ready") with
  | some condition => condition.status = "True"
  | none => false

/-- A pod of the unscheduled listing, with whether its `DeletionTimestamp` is set. -/
structure PendingPod where
  pod : Pod
  deleting : Bool

/-- The API server and Prometheus as the loop's `t`-th external call finds them. -/
structure World where
  /-- `Nodes().List`. -/
  listNodes : ℕ → Except String (List Node)
  /-- `Pods("").List` with the selector `spec.schedulerName=preemptive-scheduler,spec.nodeName=`. -/
  listUnscheduled : ℕ → Except String (List PendingPod)
  /-- Prometheus, answering the queries of one `getNodeStats`. -/
  metrics : ℕ → QueryFn
  /-- The pod listing and the eviction outcomes one `attemptPreemptionMulti` sees. -/
  client : ℕ → Client

/-- A call that changes the cluster, with the time it is made: an eviction of `evictPod` or a
binding of `bindPodToNode`. -/
inductive Action
  | evict (time : ℕ) (node : String) (victim : RunningPod)
  | bind (time : ℕ) (pod : Pod) (node : String)

/-- A stretch of a run: the time of the call after it, and the actions it made, in order. -/
structure Trace where
  next : ℕ
  actions : List Action

/-- One stretch of a run followed by the next. -/
def Trace.append (a b : Trace) : Trace := ⟨b.next, a.actions ++ b.actions⟩

/-- Appended traces end at the second one's next time. -/
@[simp] theorem Trace.next_append (a b : Trace) : (a.append b).next = b.next := rfl

/-- Appended traces take the first's actions, then the second's. -/
@[simp] theorem Trace.actions_append (a b : Trace) :
    (a.append b).actions = a.actions ++ b.actions := rfl

section Loop

variable (srt : PrioritySort) (w : World) (alpha : ℚ) (enablePreemption : Bool)

/-- One ready node's turn of `findNodeForPod`'s loop, its stats fetch the `t`-th call: whether
the node is returned, and the stretch of the run the turn makes. -/
def tryNode (podReq : PodRequest) (nodeName : String) (t : ℕ) : Bool × Trace :=
  let stats := getNodeStats (w.metrics t) nodeName
  if canScheduleMulti podReq stats alpha then (true, ⟨t + 1, []⟩)
  else if enablePreemption then
    let attempt := attemptPreemptionMulti srt (w.client (t + 1)) podReq nodeName stats
    let evictions := attempt.2.map (Action.evict (t + 1) nodeName)
    if attempt.1 then
      (canScheduleMulti podReq (getNodeStats (w.metrics (t + 2)) nodeName) alpha,
        ⟨t + 3, evictions⟩)
    else (false, ⟨t + 2, evictions⟩)
  else (false, ⟨t + 1, []⟩)

/-- The loop of `findNodeForPod` over the listed nodes, its next call the `t`-th. -/
def findNodeFrom (podReq : PodRequest) : List Node → ℕ → Option String × Trace
  | [], t => (none, ⟨t, []⟩)
  | node :: nodes, t =>
    if !isNodeReady node || node.unschedulable then findNodeFrom podReq nodes t
    else
      let turn := tryNode srt w alpha enablePreemption podReq node.name t
      if turn.1 then (some node.name, turn.2)
      else
        let rest := findNodeFrom podReq nodes turn.2.next
        (rest.1, turn.2.append rest.2)

/-- `findNodeForPod(client, podReq, alpha, enablePreemption)`, its node listing the `t`-th
call: the node's name, `""` when no node is found, or the listing's error. -/
def findNodeForPod (podReq : PodRequest) (t : ℕ) : Except String String × Trace :=
  match w.listNodes t with
  | .error err => (.error ("error listing nodes: " ++ err), ⟨t + 1, []⟩)
  | .ok nodes =>
    let found := findNodeFrom srt w alpha enablePreemption podReq nodes (t + 1)
    (.ok (found.1.getD ""), found.2)

/-- One pod's turn of `watchForUnscheduledPods`'s loop: find a node, and bind the pod to it
when one is found; a failed binding is only logged. -/
def placePod (pod : Pod) (t : ℕ) : Trace :=
  let found := findNodeForPod srt w alpha enablePreemption (extractPodRequirements pod) t
  match found.1 with
  | .error _ => found.2
  | .ok nodeName =>
    if nodeName = "" then found.2
    else ⟨found.2.next + 1, found.2.actions ++ [.bind found.2.next pod nodeName]⟩

/-- The loop of `watchForUnscheduledPods` over one listing's pods: those being deleted are
skipped. -/
def schedulePods : List PendingPod → ℕ → Trace
  | [], t => ⟨t, []⟩
  | p :: ps, t =>
    if p.deleting then schedulePods ps t
    else
      let turn := placePod srt w alpha enablePreemption p.pod t
      turn.append (schedulePods ps turn.next)

/-- One pass of `watchForUnscheduledPods`'s outer loop, its listing the `t`-th call. -/
def watchPass (t : ℕ) : Trace :=
  match w.listUnscheduled t with
  | .error _ => ⟨t + 1, []⟩
  | .ok pods => schedulePods srt w alpha enablePreemption pods (t + 1)

/-- The first `n` passes of `watchForUnscheduledPods(client, alpha, enablePreemption)`, the
first listing being the `t`-th call. -/
def watchForUnscheduledPods : ℕ → ℕ → Trace
  | 0, t => ⟨t, []⟩
  | n + 1, t =>
    let pass := watchPass srt w alpha enablePreemption t
    pass.append (watchForUnscheduledPods n pass.next)

end Loop

end MultiResource.Preemptive
