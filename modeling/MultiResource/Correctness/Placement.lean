import MultiResource.Models.Preemptive.Watch
import MultiResource.Correctness.Preemption

/-!
# What the watch-and-bind loop binds and evicts

Every binding the loop makes, over any number of passes and whatever the cluster answers, is of
a listed pod not being deleted, to a node listed ready and schedulable, right after a stats
fetch of that node that admits the pod. Every eviction is made with preemption enabled, on such
a node whose stats fetched just before failed a pending pod, of a pod listed running there with
lower priority than that pending pod. Conversely, a pass binds every pending pod that some listed
node fits at every fetch. On one snapshot of the node listing and the metrics, the node loop is
first-fit placement, preemption changes no placement, and a pass binds each pod to its own first
fit.
-/

namespace MultiResource.Preemptive

section Loop

variable (srt : PrioritySort) (w : World) (alpha : ℚ) (enablePreemption : Bool)

/-- The stats of node `n` fetched by the loop's `t`-th call admit the demand. -/
def AdmitsAt (podReq : PodRequest) (n : String) (t : ℕ) : Prop :=
  canScheduleMulti podReq (getNodeStats (w.metrics t) n) alpha = true

/-- Node `n` is ready and schedulable in the listing `nodes`. -/
def ReadyIn (nodes : List Node) (n : String) : Prop :=
  ∃ node ∈ nodes, node.name = n ∧ isNodeReady node = true ∧ node.unschedulable = false

/-- An eviction of `v` on node `n` by the preemption attempt at time `e` for `podReq`:
preemption is enabled, the stats fetched just before failed the demand, and the attempt chose
`v`. -/
def Evicts (podReq : PodRequest) (e : ℕ) (n : String) (v : RunningPod) : Prop :=
  enablePreemption = true ∧ ¬AdmitsAt w alpha podReq n (e - 1) ∧
    v ∈ (attemptPreemptionMulti srt (w.client e) podReq n (getNodeStats (w.metrics (e - 1)) n)).2

/-- The pod an action binds, if it is a binding. -/
def Action.boundPod : Action → Option Pod
  | .evict _ _ _ => none
  | .bind _ pod _ => some pod

/-- The pod an action binds and its node, if it is a binding. -/
def Action.binding : Action → Option (Pod × String)
  | .evict _ _ _ => none
  | .bind _ pod n => some (pod, n)

/-- The time an action is made. -/
def Action.time : Action → ℕ
  | .evict e _ _ => e
  | .bind b _ _ => b

/-- Node `n` is ready and schedulable in the node listing of the loop's `l`-th call. -/
def ListedReady (l : ℕ) (n : String) : Prop :=
  ∃ nodes, w.listNodes l = .ok nodes ∧ ReadyIn nodes n

/-- An action the loop may make while placing `pod`, its node listing the `l`-th call: an
eviction for the pod's demand, or the pod's binding right after a fetch that admits it, on a
node listed ready and schedulable there. -/
def ForPod (pod : Pod) (l : ℕ) : Action → Prop
  | .evict e n v =>
    Evicts srt w alpha enablePreemption (extractPodRequirements pod) e n v ∧ ListedReady w l n
  | .bind b pod' n =>
    pod' = pod ∧ n ≠ "" ∧ AdmitsAt w alpha (extractPodRequirements pod) n (b - 1) ∧
      ListedReady w l n

/-- Action `a` is one the loop may make: while placing a pod, not being deleted, of an
unscheduled listing made before it, with that pod's node listing in between. -/
def Justified (a : Action) : Prop :=
  ∃ l₀ l, l₀ < l ∧ l < a.time ∧ ∃ pods, w.listUnscheduled l₀ = .ok pods ∧
    ∃ p ∈ pods, p.deleting = false ∧ ForPod srt w alpha enablePreemption p.pod l a

variable {srt w alpha enablePreemption}

/-- A node's turn: it takes at least its fetch, a node returned was admitted by the turn's last
fetch, and its actions are the evictions of one attempt made right after a failed fetch. -/
theorem tryNode_spec (podReq : PodRequest) (n : String) (t : ℕ) :
    let turn := tryNode srt w alpha enablePreemption podReq n t
    t < turn.2.next ∧ (turn.1 = true → AdmitsAt w alpha podReq n (turn.2.next - 1)) ∧
      ∀ a ∈ turn.2.actions, ∃ v, a = .evict (t + 1) n v ∧ t + 1 < turn.2.next ∧
        Evicts srt w alpha enablePreemption podReq (t + 1) n v := by
  unfold tryNode
  dsimp only
  split_ifs with hadm hp hok <;> dsimp only
  · exact ⟨by omega, fun _ => hadm, by simp⟩
  all_goals refine ⟨by omega, fun htaken => ?_, ?_⟩
  · exact htaken
  · simp only [List.mem_map]
    rintro a ⟨v, hv, rfl⟩
    exact ⟨v, rfl, by omega, hp, hadm, hv⟩
  · cases htaken
  · simp only [List.mem_map]
    rintro a ⟨v, hv, rfl⟩
    exact ⟨v, rfl, by omega, hp, hadm, hv⟩
  · cases htaken
  · simp

/-- A node listed ready and schedulable stays so in a longer listing. -/
theorem ReadyIn.cons {nodes : List Node} {n : String} (node : Node) (h : ReadyIn nodes n) :
    ReadyIn (node :: nodes) n :=
  let ⟨x, hx, hn⟩ := h
  ⟨x, List.mem_cons_of_mem _ hx, hn⟩

/-- The node loop: a node returned is listed ready and schedulable and was admitted by the
loop's last fetch, and every action is an eviction made inside the loop's stretch on a node
listed ready and schedulable. -/
theorem findNodeFrom_spec (podReq : PodRequest) (nodes : List Node) (t : ℕ) :
    let found := findNodeFrom srt w alpha enablePreemption podReq nodes t
    t ≤ found.2.next ∧
      (∀ n, found.1 = some n → t < found.2.next ∧
        AdmitsAt w alpha podReq n (found.2.next - 1) ∧ ReadyIn nodes n) ∧
      ∀ a ∈ found.2.actions, ∃ e n v, a = .evict e n v ∧ t < e ∧ e < found.2.next ∧
        Evicts srt w alpha enablePreemption podReq e n v ∧ ReadyIn nodes n := by
  induction nodes generalizing t with
  | nil => simp [findNodeFrom]
  | cons node nodes ih =>
    dsimp only [findNodeFrom]
    split
    next =>
      obtain ⟨h1, h2, h3⟩ := ih t
      refine ⟨h1, fun n hn => ?_, fun a ha => ?_⟩
      · obtain ⟨hlt, hadm, hin⟩ := h2 n hn
        exact ⟨hlt, hadm, hin.cons node⟩
      · obtain ⟨e, n, v, rfl, he, he', hev, hin⟩ := h3 a ha
        exact ⟨e, n, v, rfl, he, he', hev, hin.cons node⟩
    next hskip =>
      have hready : ReadyIn (node :: nodes) node.name :=
        ⟨node, List.mem_cons_self _ _, rfl, by simpa using hskip⟩
      obtain ⟨hlt, hadm, hact⟩ := @tryNode_spec srt w alpha enablePreemption podReq node.name t
      set turn := tryNode srt w alpha enablePreemption podReq node.name t
      have hturn_act : ∀ a ∈ turn.2.actions, ∃ e n v, a = .evict e n v ∧ t < e ∧
          e < turn.2.next ∧ Evicts srt w alpha enablePreemption podReq e n v ∧
            ReadyIn (node :: nodes) n := fun a ha => by
        obtain ⟨v, rfl, hlt', hev⟩ := hact a ha
        exact ⟨t + 1, node.name, v, rfl, by omega, hlt', hev, hready⟩
      split
      next hturn =>
        refine ⟨hlt.le, fun n hn => ?_, hturn_act⟩
        cases hn
        exact ⟨hlt, hadm hturn, hready⟩
      next =>
        obtain ⟨h1, h2, h3⟩ := ih turn.2.next
        simp only [Trace.next_append, Trace.actions_append, List.mem_append]
        refine ⟨by omega, fun n hn => ?_, fun a ha => ?_⟩
        · obtain ⟨hlt', hadm', hin⟩ := h2 n hn
          exact ⟨by omega, hadm', hin.cons node⟩
        · rcases ha with ha | ha
          · obtain ⟨e, n, v, rfl, he, he', hev, hin⟩ := hturn_act a ha
            exact ⟨e, n, v, rfl, he, by omega, hev, hin⟩
          · obtain ⟨e, n, v, rfl, he, he', hev, hin⟩ := h3 a ha
            exact ⟨e, n, v, rfl, by omega, he', hev, hin.cons node⟩

/-- `findNodeForPod`: a node returned is listed ready and schedulable by the call's listing and
admitted by its last fetch, and every action is an eviction for the demand on such a node. -/
theorem findNodeForPod_spec (podReq : PodRequest) (t : ℕ) :
    let found := findNodeForPod srt w alpha enablePreemption podReq t
    t < found.2.next ∧
      (∀ n, found.1 = .ok n → n ≠ "" →
        AdmitsAt w alpha podReq n (found.2.next - 1) ∧ ListedReady w t n) ∧
      ∀ a ∈ found.2.actions, ∃ e n v, a = .evict e n v ∧ t < e ∧ e < found.2.next ∧
        Evicts srt w alpha enablePreemption podReq e n v ∧ ListedReady w t n := by
  unfold findNodeForPod
  split <;> dsimp only
  · simp
  · rename_i nodes hnodes
    obtain ⟨h1, h2, h3⟩ := @findNodeFrom_spec srt w alpha enablePreemption podReq nodes (t + 1)
    refine ⟨by omega, fun n hn hne => ?_, fun a ha => ?_⟩
    · cases hfound : (findNodeFrom srt w alpha enablePreemption podReq nodes (t + 1)).1 with
      | none => simp [hfound] at hn; exact absurd hn.symm hne
      | some m =>
        simp only [hfound, Option.getD_some, Except.ok.injEq] at hn
        subst hn
        obtain ⟨-, hadm, hin⟩ := h2 _ hfound
        exact ⟨hadm, nodes, hnodes, hin⟩
    · obtain ⟨e, n, v, rfl, he, he', hev, hin⟩ := h3 a ha
      exact ⟨e, n, v, rfl, by omega, he', hev, nodes, hnodes, hin⟩

/-- `findNodeForPod` only evicts: a map that reads nothing off an eviction reads nothing off
its actions. -/
theorem findNodeForPod_filterMap_eq_nil {β : Type} (f : Action → Option β)
    (hf : ∀ e n v, f (.evict e n v) = none) (podReq : PodRequest) (t : ℕ) :
    (findNodeForPod srt w alpha enablePreemption podReq t).2.actions.filterMap f = [] :=
  List.filterMap_eq_nil_iff.mpr fun a ha => by
    obtain ⟨e, n, v, rfl, -⟩ :=
      (@findNodeForPod_spec srt w alpha enablePreemption podReq t).2.2 a ha
    exact hf e n v

/-- One pod's turn: every action is one the loop may make while placing that pod, inside the
turn's stretch, with the turn's node listing before it. -/
theorem placePod_spec (pod : Pod) (t : ℕ) :
    let turn := placePod srt w alpha enablePreemption pod t
    t < turn.next ∧ ∀ a ∈ turn.actions, t < a.time ∧ a.time < turn.next ∧
      ForPod srt w alpha enablePreemption pod t a := by
  obtain ⟨h1, h2, h3⟩ :=
    @findNodeForPod_spec srt w alpha enablePreemption (extractPodRequirements pod) t
  have hev : ∀ a ∈ (findNodeForPod srt w alpha enablePreemption
      (extractPodRequirements pod) t).2.actions, t < a.time ∧
        a.time < (findNodeForPod srt w alpha enablePreemption
          (extractPodRequirements pod) t).2.next ∧ ForPod srt w alpha enablePreemption pod t a :=
    fun a ha => by
      obtain ⟨e, n, v, rfl, he, he', hev, hin⟩ := h3 a ha
      exact ⟨he, he', hev, hin⟩
  unfold placePod
  dsimp only
  split
  · exact ⟨h1, hev⟩
  · rename_i nodeName hfound
    split_ifs with hempty
    · exact ⟨h1, hev⟩
    · obtain ⟨hadm, hin⟩ := h2 nodeName hfound hempty
      refine ⟨by simp only; omega, fun a ha => ?_⟩
      rcases List.mem_append.mp ha with ha | ha
      · obtain ⟨h1', h2', h3'⟩ := hev a ha
        exact ⟨h1', by simp only; omega, h3'⟩
      · rw [List.mem_singleton.mp ha]
        exact ⟨h1, by simp only [Action.time]; omega, rfl, hempty, hadm, hin⟩

/-- One listing's loop: every action is made while placing a listed pod not being deleted,
with that pod's node listing inside the stretch and before the action. -/
theorem schedulePods_spec (pods : List PendingPod) (t : ℕ) :
    let tr := schedulePods srt w alpha enablePreemption pods t
    t ≤ tr.next ∧ ∀ a ∈ tr.actions, t < a.time ∧ a.time < tr.next ∧
      ∃ p ∈ pods, p.deleting = false ∧
        ∃ l, t ≤ l ∧ l < a.time ∧ ForPod srt w alpha enablePreemption p.pod l a := by
  induction pods generalizing t with
  | nil => simp [schedulePods]
  | cons p ps ih =>
    dsimp only [schedulePods]
    split_ifs with hdel
    · obtain ⟨h1, h2⟩ := ih t
      refine ⟨h1, fun a ha => ?_⟩
      obtain ⟨ht, ht', q, hq, hqd, l, hl, hl', hfor⟩ := h2 a ha
      exact ⟨ht, ht', q, List.mem_cons_of_mem _ hq, hqd, l, hl, hl', hfor⟩
    · obtain ⟨h1, h2⟩ := @placePod_spec srt w alpha enablePreemption p.pod t
      obtain ⟨r1, r2⟩ := ih (placePod srt w alpha enablePreemption p.pod t).next
      simp only [Trace.next_append, Trace.actions_append, List.mem_append]
      refine ⟨by omega, fun a ha => ?_⟩
      rcases ha with ha | ha
      · obtain ⟨ht, ht', hfor⟩ := h2 a ha
        exact ⟨ht, by omega, p, List.mem_cons_self _ _, by simpa using hdel, t, le_rfl, ht,
          hfor⟩
      · obtain ⟨ht, ht', q, hq, hqd, l, hl, hl', hfor⟩ := r2 a ha
        exact ⟨by omega, ht', q, List.mem_cons_of_mem _ hq, hqd, l, by omega, hl', hfor⟩

/-- One pass: every action is justified by the pass's own listing, inside the pass's stretch. -/
theorem watchPass_spec (t : ℕ) :
    let tr := watchPass srt w alpha enablePreemption t
    t < tr.next ∧ ∀ a ∈ tr.actions, t < a.time ∧ a.time < tr.next ∧
      Justified srt w alpha enablePreemption a := by
  unfold watchPass
  split
  · simp
  · rename_i pods hpods
    obtain ⟨h1, h2⟩ := @schedulePods_spec srt w alpha enablePreemption pods (t + 1)
    refine ⟨by omega, fun a ha => ?_⟩
    obtain ⟨ht, ht', p, hp, hpd, l, hl, hl', hfor⟩ := h2 a ha
    exact ⟨by omega, ht', t, l, by omega, hl', pods, hpods, p, hp, hpd, hfor⟩

/-- Every action of every run of the watch loop is justified. -/
theorem watchForUnscheduledPods_justified (n t : ℕ) :
    let tr := watchForUnscheduledPods srt w alpha enablePreemption n t
    t ≤ tr.next ∧ ∀ a ∈ tr.actions, t < a.time ∧ a.time < tr.next ∧
      Justified srt w alpha enablePreemption a := by
  induction n generalizing t with
  | zero => simp [watchForUnscheduledPods]
  | succ n ih =>
    dsimp only [watchForUnscheduledPods]
    obtain ⟨h1, h2⟩ := @watchPass_spec srt w alpha enablePreemption t
    obtain ⟨r1, r2⟩ := ih (watchPass srt w alpha enablePreemption t).next
    simp only [Trace.next_append, Trace.actions_append, List.mem_append]
    refine ⟨by omega, fun a ha => ?_⟩
    rcases ha with ha | ha
    · obtain ⟨ht, ht', hj⟩ := h2 a ha
      exact ⟨ht, by omega, hj⟩
    · obtain ⟨ht, ht', hj⟩ := r2 a ha
      exact ⟨by omega, ht', hj⟩

/-- A pod's turn binds at most that pod, once. -/
theorem placePod_boundPod (pod : Pod) (t : ℕ) :
    ((placePod srt w alpha enablePreemption pod t).actions.filterMap Action.boundPod).Sublist
      [pod] := by
  have hev := @findNodeForPod_filterMap_eq_nil srt w alpha enablePreemption _ Action.boundPod
    (fun _ _ _ => rfl) (extractPodRequirements pod) t
  unfold placePod
  dsimp only
  split
  · simp [hev]
  · split_ifs
    · simp [hev]
    · simp [List.filterMap_append, hev, Action.boundPod]

/-- One listing's loop binds only pods not being deleted, each at most once, in listing
order. -/
theorem schedulePods_binds_each_once (pods : List PendingPod) (t : ℕ) :
    ((schedulePods srt w alpha enablePreemption pods t).actions.filterMap Action.boundPod).Sublist
      ((pods.filter fun p => !p.deleting).map PendingPod.pod) := by
  induction pods generalizing t with
  | nil => simp [schedulePods]
  | cons p ps ih =>
    dsimp only [schedulePods]
    split_ifs with hdel
    · simpa [hdel] using ih t
    · rw [Trace.actions_append, List.filterMap_append,
        List.filter_cons_of_pos (by simpa using hdel), List.map_cons, ← List.singleton_append]
      exact (placePod_boundPod p.pod t).append (ih _)

/-- A pod's turn binds the pod to the node `findNodeForPod` returns, unless it returns an error
or the empty name. -/
theorem placePod_bindings (pod : Pod) (t : ℕ) :
    (placePod srt w alpha enablePreemption pod t).actions.filterMap Action.binding =
      match (findNodeForPod srt w alpha enablePreemption (extractPodRequirements pod) t).1 with
      | .ok n => if n = "" then [] else [(pod, n)]
      | .error _ => [] := by
  have hev := @findNodeForPod_filterMap_eq_nil srt w alpha enablePreemption _ Action.binding
    (fun _ _ _ => rfl) (extractPodRequirements pod) t
  cases hf : (findNodeForPod srt w alpha enablePreemption (extractPodRequirements pod) t).1 with
  | error e => simp [placePod, hf, hev]
  | ok n =>
    by_cases hn : n = ""
    · simp [placePod, hf, hev, hn]
    · simp [placePod, hf, hev, hn, List.filterMap_append, Action.binding]

/-- An evicted pod was listed running on the node, with lower priority than the demand. -/
theorem Evicts.lower_priority {podReq : PodRequest} {e : ℕ} {n : String} {v : RunningPod}
    (h : Evicts srt w alpha enablePreemption podReq e n v) :
    v.priority < podReq.priority ∧
      ∃ running, getRunningPods ((w.client e).listPods n) = .ok running ∧ v ∈ running := by
  obtain ⟨-, -, hv⟩ := h
  cases hl : getRunningPods ((w.client e).listPods n) with
  | error err => simp [attemptPreemptionMulti, hl] at hv
  | ok running =>
    obtain ⟨hlow, hsub⟩ := attemptPreemptionMulti_calls srt (w.client e) podReq n _ hl
    exact ⟨hlow v hv, running, rfl, hsub.subset hv⟩

/-- Appending traces is associative. -/
theorem Trace.append_assoc (a b c : Trace) : (a.append b).append c = a.append (b.append c) := by
  simp [Trace.append]

/-- The node loop over two listings: the second is searched, from where the first stopped, only
when the first finds nothing. -/
theorem findNodeFrom_append (podReq : PodRequest) (pre rest : List Node) (t : ℕ) :
    findNodeFrom srt w alpha enablePreemption podReq (pre ++ rest) t =
      match findNodeFrom srt w alpha enablePreemption podReq pre t with
      | (some n, tr) => (some n, tr)
      | (none, tr) =>
        ((findNodeFrom srt w alpha enablePreemption podReq rest tr.next).1,
          tr.append (findNodeFrom srt w alpha enablePreemption podReq rest tr.next).2) := by
  induction pre generalizing t with
  | nil => rfl
  | cons node pre ih =>
    rw [List.cons_append]
    dsimp only [findNodeFrom]
    split_ifs with hskip hturn
    · exact ih t
    · rfl
    · rw [ih]
      rcases findNodeFrom srt w alpha enablePreemption podReq pre
        (tryNode srt w alpha enablePreemption podReq node.name t).2.next with ⟨_ | n, tr⟩
      · simp only [Trace.append_assoc, Trace.next_append]
      · rfl

/-- A node whose every fetch admits the demand is never passed over: the loop returns it or a
node listed ready and schedulable before it. -/
theorem findNodeFrom_some_of_admits (podReq : PodRequest) (pre : List Node) (node : Node)
    (post : List Node) (t : ℕ) (hready : isNodeReady node = true)
    (hsched : node.unschedulable = false) (hadm : ∀ s, AdmitsAt w alpha podReq node.name s) :
    ∃ n, (findNodeFrom srt w alpha enablePreemption podReq (pre ++ node :: post) t).1 = some n ∧
      (n = node.name ∨ ReadyIn pre n) := by
  rw [findNodeFrom_append]
  rcases hpre : findNodeFrom srt w alpha enablePreemption podReq pre t with ⟨_ | n, tr⟩
  · refine ⟨node.name, ?_, .inl rfl⟩
    have htake : (tryNode srt w alpha enablePreemption podReq node.name tr.next).1 = true := by
      have h : canScheduleMulti podReq (getNodeStats (w.metrics tr.next) node.name) alpha = true :=
        hadm tr.next
      simp [tryNode, h]
    simp [findNodeFrom, hready, hsched, htake]
  · have h := (@findNodeFrom_spec srt w alpha enablePreemption podReq pre t).2.1 n
    rw [hpre] at h
    exact ⟨n, rfl, .inr (h rfl).2.2⟩

/-- With the node listing at hand, `findNodeForPod` is the node loop after it. -/
theorem findNodeForPod_of_listNodes {podReq : PodRequest} {t : ℕ} {nodes : List Node}
    (h : w.listNodes t = .ok nodes) :
    findNodeForPod srt w alpha enablePreemption podReq t =
      (.ok ((findNodeFrom srt w alpha enablePreemption podReq nodes (t + 1)).1.getD ""),
        (findNodeFrom srt w alpha enablePreemption podReq nodes (t + 1)).2) := by
  simp [findNodeForPod, h]

/-- A pod that a node fits at every fetch is bound by its turn when every node listing has that
node, ready and schedulable, and no node with the empty name. -/
theorem placePod_binds_of_fits {node : Node} {pod : Pod}
    (hlist : ∀ s, ∃ nodes, w.listNodes s = .ok nodes ∧ node ∈ nodes ∧ ∀ x ∈ nodes, x.name ≠ "")
    (hready : isNodeReady node = true) (hsched : node.unschedulable = false)
    (hadm : ∀ s, AdmitsAt w alpha (extractPodRequirements pod) node.name s) (t : ℕ) :
    ∃ n, (pod, n) ∈
      (placePod srt w alpha enablePreemption pod t).actions.filterMap Action.binding := by
  obtain ⟨nodes, hls, hnode, hnames⟩ := hlist t
  obtain ⟨pre, post, hsplit⟩ := List.append_of_mem hnode
  obtain ⟨n, hfound, hwhich⟩ := @findNodeFrom_some_of_admits srt w alpha enablePreemption
    (extractPodRequirements pod) pre node post (t + 1) hready hsched hadm
  have hne : n ≠ "" := by
    rcases hwhich with rfl | ⟨x, hx, rfl, -⟩
    · exact hnames node hnode
    · exact hnames x (hsplit ▸ List.mem_append_left _ hx)
  refine ⟨n, ?_⟩
  rw [placePod_bindings, findNodeForPod_of_listNodes hls, hsplit, hfound]
  simp [hne]

/-- One listing's loop binds each listed pod not being deleted that such a node fits, whatever
the turns before it did. -/
theorem schedulePods_binds_of_fits {node : Node} {p : PendingPod}
    (hlist : ∀ s, ∃ nodes, w.listNodes s = .ok nodes ∧ node ∈ nodes ∧ ∀ x ∈ nodes, x.name ≠ "")
    (hready : isNodeReady node = true) (hsched : node.unschedulable = false)
    (hpd : p.deleting = false)
    (hadm : ∀ s, AdmitsAt w alpha (extractPodRequirements p.pod) node.name s)
    {pods : List PendingPod} (hp : p ∈ pods) (t : ℕ) :
    ∃ n, (p.pod, n) ∈
      (schedulePods srt w alpha enablePreemption pods t).actions.filterMap Action.binding := by
  induction pods generalizing t with
  | nil => cases hp
  | cons q qs ih =>
    dsimp only [schedulePods]
    rcases List.mem_cons.mp hp with rfl | hq
    · obtain ⟨n, hmem⟩ := @placePod_binds_of_fits srt w alpha enablePreemption _ _ hlist hready
        hsched hadm t
      rw [if_neg (by simp [hpd]), Trace.actions_append, List.filterMap_append]
      exact ⟨n, List.mem_append_left _ hmem⟩
    · split_ifs
      · exact ih hq t
      · obtain ⟨n, hmem⟩ := ih hq (placePod srt w alpha enablePreemption q.pod t).next
        rw [Trace.actions_append, List.filterMap_append]
        exact ⟨n, List.mem_append_right _ hmem⟩

end Loop

/-! ## Placement on one snapshot of the metrics -/

/-- First-fit placement on one snapshot of the nodes' stats: the first listed node, ready and
schedulable, whose stats admit the demand. -/
def firstFit (snap : String → NodeStats) (podReq : PodRequest) (alpha : ℚ) (nodes : List Node) :
    Option String :=
  (nodes.find? fun node => isNodeReady node && !node.unschedulable &&
    canScheduleMulti podReq (snap node.name) alpha).map Node.name

/-- First fit on a listing: its head if that fits, else the first fit of its tail. -/
theorem firstFit_cons (snap : String → NodeStats) (podReq : PodRequest) (alpha : ℚ) (node : Node)
    (nodes : List Node) :
    firstFit snap podReq alpha (node :: nodes) =
      if isNodeReady node && !node.unschedulable &&
        canScheduleMulti podReq (snap node.name) alpha then some node.name
      else firstFit snap podReq alpha nodes := by
  unfold firstFit
  cases h : isNodeReady node && !node.unschedulable &&
    canScheduleMulti podReq (snap node.name) alpha <;>
      simp only [List.find?_cons, h] <;> rfl

/-- The first fit is admitted by the snapshot. -/
theorem firstFit_admits {snap : String → NodeStats} {podReq : PodRequest} {alpha : ℚ}
    {nodes : List Node} {n : String} (h : firstFit snap podReq alpha nodes = some n) :
    canScheduleMulti podReq (snap n) alpha = true := by
  obtain ⟨node, hfind, rfl⟩ := Option.map_eq_some'.mp h
  exact (by simpa using List.find?_some hfind : _ ∧ _).2

/-- The binding one snapshot of the node listing and the nodes' stats gives a pod: its first
fit, unless that node has the empty name. -/
def snapshotBinding (snap : String → NodeStats) (alpha : ℚ) (nodes : List Node) (pod : Pod) :
    Option (Pod × String) :=
  match firstFit snap (extractPodRequirements pod) alpha nodes with
  | some n => if n = "" then none else some (pod, n)
  | none => none

section Snapshot

variable {srt : PrioritySort} {w : World} {alpha : ℚ} {enablePreemption : Bool}
  {snap : String → NodeStats}

/-- On a snapshot a node's turn takes it exactly when the snapshot admits the demand: a re-fetch
after preemption sees the stats that failed. -/
theorem tryNode_fst_of_snapshot (hq : ∀ s n, getNodeStats (w.metrics s) n = snap n)
    (podReq : PodRequest) (n : String) (t : ℕ) :
    (tryNode srt w alpha enablePreemption podReq n t).1 =
      canScheduleMulti podReq (snap n) alpha := by
  unfold tryNode
  simp only [hq]
  split_ifs with hadm <;> simp [hadm]

/-- On a snapshot the node loop returns the first fit, whether preemption is enabled or not. -/
theorem findNodeFrom_fst_of_snapshot (hq : ∀ s n, getNodeStats (w.metrics s) n = snap n)
    (podReq : PodRequest) (nodes : List Node) (t : ℕ) :
    (findNodeFrom srt w alpha enablePreemption podReq nodes t).1 =
      firstFit snap podReq alpha nodes := by
  induction nodes generalizing t with
  | nil => rfl
  | cons node nodes ih =>
    rw [firstFit_cons]
    dsimp only [findNodeFrom]
    split_ifs with hskip hturn hfit hfit <;>
      simp_all [tryNode_fst_of_snapshot hq]

/-- On a snapshot every eviction is on a node the snapshot fails. -/
theorem Evicts.fails_snapshot (hq : ∀ s n, getNodeStats (w.metrics s) n = snap n)
    {podReq : PodRequest} {e : ℕ} {n : String} {v : RunningPod}
    (h : Evicts srt w alpha enablePreemption podReq e n v) :
    canScheduleMulti podReq (snap n) alpha = false := by
  simpa [AdmitsAt, hq] using h.2.1

/-- On a snapshot of the node listing and the metrics, a pod's turn binds what the snapshot
gives it. -/
theorem placePod_bindings_of_snapshot {nodes : List Node}
    (hq : ∀ s n, getNodeStats (w.metrics s) n = snap n) (hn : ∀ s, w.listNodes s = .ok nodes)
    (pod : Pod) (t : ℕ) :
    (placePod srt w alpha enablePreemption pod t).actions.filterMap Action.binding =
      (snapshotBinding snap alpha nodes pod).toList := by
  rw [placePod_bindings, findNodeForPod_of_listNodes (hn t), findNodeFrom_fst_of_snapshot hq]
  unfold snapshotBinding
  cases firstFit snap (extractPodRequirements pod) alpha nodes with
  | none => rfl
  | some n => by_cases h : n = "" <;> simp [h]

end Snapshot


/-! ## Two small clusters -/

/-- A node whose `Ready` condition is `True`. -/
def readyNode : Node := ⟨"node1", [⟨"Ready", "True"⟩], false⟩

/-- A second ready node. -/
def spareNode : Node := ⟨"node2", [⟨"Ready", "True"⟩], false⟩

/-- Prometheus unreachable: every query fails, so `getNodeStats` returns its defaults. -/
def promDown : QueryFn := fun _ => .error "connection refused"

/-- Prometheus answering every query with 5.5 for `node1` and 1 for `node2`: five and a half
of `node1`'s six CPUs are busy, and one of `node2`'s. -/
def loadedProm : QueryFn := fun _ =>
  .ok ((GoMap.empty.insert "node1:9100" 5.5).insert "node2:9100" 1)

/-- A pending pod of three CPUs at priority 1. -/
def heavyPod : Pod :=
  ⟨"heavy", "default", .pending, [⟨"worker", some 3000, none⟩], some 1, GoMap.empty,
    Pod.ioFinite_empty⟩

/-- A second pod like it. -/
def heavyPod2 : Pod := { heavyPod with name := "heavy2" }

/-- A running pod of one and a half CPUs at priority 0. -/
def batchJob : Pod :=
  ⟨"batch", "default", .running, [⟨"busybox", some 1500, none⟩], some 0, GoMap.empty,
    Pod.ioFinite_empty⟩

/-- Both nodes listed, both heavy pods unscheduled, Prometheus loaded, and no running pods to
preempt. -/
def twoNodeWorld : World :=
  ⟨fun _ => .ok [readyNode, spareNode], fun _ => .ok [⟨heavyPod, false⟩, ⟨heavyPod2, false⟩],
    fun _ => loadedProm, fun _ => ⟨fun _ => .ok [], fun _ => .ok ()⟩⟩

/-- The ready node runs the batch job, the heavy pod is unscheduled, and Prometheus is
unreachable, so every fetch reports the default two free CPUs. -/
def crowdedWorld : World :=
  ⟨fun _ => .ok [readyNode], fun _ => .ok [⟨heavyPod, false⟩], fun _ => promDown,
    fun _ => ⟨fun _ => .ok [batchJob], fun _ => .ok ()⟩⟩

/-- The defaults of `getNodeStats` when every query fails. -/
theorem getNodeStats_promDown (n : String) :
    getNodeStats promDown n =
      ⟨6, 2, 8589934592, 4294967296, 100, 100, 100, 100, 1000, 1000, 1000, 1000⟩ := by
  norm_num [getNodeStats, promDown, sampleOr]

/-- `node1` as the loaded Prometheus reports it: half a CPU free. -/
theorem getNodeStats_loadedProm_node1 :
    getNodeStats loadedProm "node1" = ⟨6, 0.5, 5.5, 0, 5.5, 0, 5.5, 0, 5.5, 0, 5.5, 0⟩ := by
  simp +decide [getNodeStats, loadedProm, sampleOr, memTotalOf, matchInstance]
  norm_num

/-- `node2` as the loaded Prometheus reports it: five CPUs free. -/
theorem getNodeStats_loadedProm_node2 :
    getNodeStats loadedProm "node2" = ⟨6, 5, 1, 0, 1, 0, 1, 0, 1, 0, 1, 0⟩ := by
  simp +decide [getNodeStats, loadedProm, sampleOr, memTotalOf, matchInstance]
  norm_num

/-- The heavy pods' requirements: three CPUs and nothing else, at priority 1. -/
theorem extractPodRequirements_heavyPod :
    extractPodRequirements heavyPod = ⟨3, 0, 0, 0, 0, 0, 1⟩ ∧
      extractPodRequirements heavyPod2 = ⟨3, 0, 0, 0, 0, 0, 1⟩ := by
  constructor <;> norm_num [extractPodRequirements, heavyPod2, heavyPod, Pod.cpuCores,
    Pod.memRequest, Container.cpuCores, Container.memRequest]

/-- Three CPUs fail `node1` and fit `node2`, whose utilisation then reaches two thirds. -/
theorem heavyPod_admission :
    canScheduleMulti ⟨3, 0, 0, 0, 0, 0, 1⟩ (getNodeStats loadedProm "node1") 0.8 = false ∧
      canScheduleMulti ⟨3, 0, 0, 0, 0, 0, 1⟩ (getNodeStats loadedProm "node2") 0.8 = true := by
  rw [getNodeStats_loadedProm_node1, getNodeStats_loadedProm_node2]
  constructor <;> norm_num [canScheduleMulti, admitsResource, Resource.all, NodeStats.free,
    NodeStats.total, PodRequest.demand]

/-- Without running pods preemption has no candidates and evicts nothing. -/
theorem attemptPreemptionMulti_of_no_pods (podReq : PodRequest) (n : String) (stats : NodeStats) :
    attemptPreemptionMulti insertionPrioritySort ⟨fun _ => .ok [], fun _ => .ok ()⟩ podReq n stats =
      (false, []) := rfl

/-- One pass passes over `node1`, where preemption finds nothing to evict, and binds both heavy
pods to `node2`, which has room for one of them only. -/
theorem watch_twoNodeWorld :
    (watchForUnscheduledPods insertionPrioritySort twoNodeWorld 0.8 true 1 0).actions =
      [.bind 5 heavyPod "node2", .bind 10 heavyPod2 "node2"] := by
  simp [watchForUnscheduledPods, watchPass, twoNodeWorld, schedulePods, placePod,
    findNodeForPod, findNodeFrom, tryNode, extractPodRequirements_heavyPod, heavyPod_admission,
    attemptPreemptionMulti_of_no_pods, readyNode, spareNode, isNodeReady]

/-- Two free CPUs fail the heavy pod. -/
theorem heavyPod_rejected :
    canScheduleMulti (extractPodRequirements heavyPod)
      ⟨6, 2, 8589934592, 4294967296, 100, 100, 100, 100, 1000, 1000, 1000, 1000⟩ 0.8 = false := by
  rw [extractPodRequirements_heavyPod.1]
  norm_num [canScheduleMulti, admitsResource, Resource.all, NodeStats.free, NodeStats.total,
    PodRequest.demand]

/-- Evicting the batch job would free enough CPU for the heavy pod. -/
theorem heavyPod_preempts :
    attemptPreemptionMulti insertionPrioritySort ⟨fun _ => .ok [batchJob], fun _ => .ok ()⟩
        (extractPodRequirements heavyPod) "node1"
        ⟨6, 2, 8589934592, 4294967296, 100, 100, 100, 100, 1000, 1000, 1000, 1000⟩ =
      (true, [runningPodOf batchJob]) := by
  rw [extractPodRequirements_heavyPod.1]
  norm_num [attemptPreemptionMulti, getRunningPods, lowerPriority, insertionPrioritySort,
    accumulateVictims, evictVictims, runningPodOf, batchJob, Pod.cpuCores, Pod.memRequest,
    Container.cpuCores, Container.memRequest]

/-- One pass evicts the batch job, then finds the node still failing on the unchanged metrics
and binds nothing. -/
theorem watch_crowdedWorld :
    (watchForUnscheduledPods insertionPrioritySort crowdedWorld 0.8 true 1 0).actions =
      [.evict 3 "node1" (runningPodOf batchJob)] := by
  simp [watchForUnscheduledPods, watchPass, crowdedWorld, schedulePods, placePod, findNodeForPod,
    findNodeFrom, tryNode, getNodeStats_promDown, heavyPod_rejected, heavyPod_preempts, readyNode,
    isNodeReady]

/-! ## Whole runs -/

/-- Every binding of every run of the watch loop, whatever the API server and Prometheus
answer, is of a pod listed unscheduled and not being deleted, to a node listed ready and
schedulable, right after a stats fetch of that node that admits the pod. -/
theorem watch_binds_only_admitted (srt : PrioritySort) (w : World) (alpha : ℚ)
    (enablePreemption : Bool) (passes t b : ℕ) (pod : Pod) (n : String)
    (h : Action.bind b pod n ∈
      (watchForUnscheduledPods srt w alpha enablePreemption passes t).actions) :
    n ≠ "" ∧
      canScheduleMulti (extractPodRequirements pod) (getNodeStats (w.metrics (b - 1)) n) alpha =
        true ∧
      (∃ l < b, ∃ nodes, w.listNodes l = .ok nodes ∧
        ∃ node ∈ nodes, node.name = n ∧ isNodeReady node = true ∧ node.unschedulable = false) ∧
      ∃ l < b, ∃ pods, w.listUnscheduled l = .ok pods ∧
        ∃ p ∈ pods, p.pod = pod ∧ p.deleting = false := by
  obtain ⟨-, -, l₀, l, hl, hlb, pods, hpods, p, hp, hpd, hpod, hne, hadm, hready⟩ :=
    (@watchForUnscheduledPods_justified srt w alpha enablePreemption passes t).2 _ h
  exact ⟨hne, hpod ▸ hadm, ⟨l, hlb, hready⟩, l₀, hl.trans hlb, pods, hpods, p, hp, hpod.symm,
    hpd⟩

/-- The second heavy pod's binding to `node2`, made at the loop's tenth call, followed a fetch
that admitted it. -/
theorem watch_binds_only_admitted_twoNodeWorld :
    Action.bind 10 heavyPod2 "node2" ∈
        (watchForUnscheduledPods insertionPrioritySort twoNodeWorld 0.8 true 1 0).actions ∧
      canScheduleMulti (extractPodRequirements heavyPod2)
        (getNodeStats (twoNodeWorld.metrics 9) "node2") 0.8 = true :=
  have h : Action.bind 10 heavyPod2 "node2" ∈
      (watchForUnscheduledPods insertionPrioritySort twoNodeWorld 0.8 true 1 0).actions := by
    rw [watch_twoNodeWorld]
    simp
  ⟨h, (watch_binds_only_admitted _ _ _ _ 1 0 10 heavyPod2 "node2" h).2.1⟩

/-- Every eviction of every run of the watch loop, whatever the API server and Prometheus
answer, is made with preemption enabled, on a node listed ready and schedulable whose stats
fetched just before failed a pod listed unscheduled and not being deleted, of a pod listed
running there with lower priority than that pod. -/
theorem watch_evicts_only_lower_priority (srt : PrioritySort) (w : World) (alpha : ℚ)
    (enablePreemption : Bool) (passes t e : ℕ) (n : String) (v : RunningPod)
    (h : Action.evict e n v ∈
      (watchForUnscheduledPods srt w alpha enablePreemption passes t).actions) :
    enablePreemption = true ∧
      (∃ l < e, ∃ nodes, w.listNodes l = .ok nodes ∧
        ∃ node ∈ nodes, node.name = n ∧ isNodeReady node = true ∧ node.unschedulable = false) ∧
      ∃ l < e, ∃ pods, w.listUnscheduled l = .ok pods ∧ ∃ p ∈ pods, p.deleting = false ∧
        canScheduleMulti (extractPodRequirements p.pod) (getNodeStats (w.metrics (e - 1)) n)
          alpha = false ∧
        v.priority < p.pod.priority.getD 0 ∧
        ∃ running, getRunningPods ((w.client e).listPods n) = .ok running ∧ v ∈ running := by
  obtain ⟨-, -, l₀, l, hl, hle, pods, hpods, p, hp, hpd, hev, hready⟩ :=
    (@watchForUnscheduledPods_justified srt w alpha enablePreemption passes t).2 _ h
  obtain ⟨hlow, hrun⟩ := hev.lower_priority
  exact ⟨hev.1, ⟨l, hle, hready⟩, l₀, hl.trans hle, pods, hpods, p, hp, hpd,
    by simpa [AdmitsAt] using hev.2.1, hlow, hrun⟩

/-- The batch job's eviction was made on a node the listing showed ready and schedulable. -/
theorem watch_evicts_only_lower_priority_crowdedWorld :
    Action.evict 3 "node1" (runningPodOf batchJob) ∈
        (watchForUnscheduledPods insertionPrioritySort crowdedWorld 0.8 true 1 0).actions ∧
      ∃ l < 3, ∃ nodes, crowdedWorld.listNodes l = .ok nodes ∧ ∃ node ∈ nodes,
        node.name = "node1" ∧ isNodeReady node = true ∧ node.unschedulable = false :=
  have h : Action.evict 3 "node1" (runningPodOf batchJob) ∈
      (watchForUnscheduledPods insertionPrioritySort crowdedWorld 0.8 true 1 0).actions := by
    rw [watch_crowdedWorld]
    exact List.mem_singleton_self _
  ⟨h, (watch_evicts_only_lower_priority _ _ _ _ 1 0 3 "node1" _ h).2.1⟩

/-- When every fetch of a node's stats during a `findNodeForPod` call gives the same stats, as
right after an eviction the rates have not yet seen, the node returned is the first fit on
those stats whether preemption is enabled or not, and every eviction is on a node they fail,
never the node returned: preemption then only evicts. -/
theorem findNodeForPod_preemption_futile (srt : PrioritySort) (w : World) (alpha : ℚ)
    (enablePreemption : Bool) (podReq : PodRequest) (t : ℕ) (snap : String → NodeStats)
    (hq : ∀ s n, getNodeStats (w.metrics s) n = snap n) :
    (∀ nodes, w.listNodes t = .ok nodes →
      (findNodeForPod srt w alpha enablePreemption podReq t).1 =
        .ok ((firstFit snap podReq alpha nodes).getD "")) ∧
      (findNodeForPod srt w alpha enablePreemption podReq t).1 =
        (findNodeForPod srt w alpha false podReq t).1 ∧
      ∀ a ∈ (findNodeForPod srt w alpha enablePreemption podReq t).2.actions,
        ∃ e n v, a = .evict e n v ∧ canScheduleMulti podReq (snap n) alpha = false ∧
          ∀ nodes, w.listNodes t = .ok nodes → firstFit snap podReq alpha nodes ≠ some n := by
  have hfit : ∀ ep nodes, w.listNodes t = .ok nodes →
      (findNodeForPod srt w alpha ep podReq t).1 =
        .ok ((firstFit snap podReq alpha nodes).getD "") :=
    fun ep nodes hn => by rw [findNodeForPod_of_listNodes hn, findNodeFrom_fst_of_snapshot hq]
  refine ⟨hfit enablePreemption, ?_, fun a ha => ?_⟩
  · cases hn : w.listNodes t with
    | error err => simp [findNodeForPod, hn]
    | ok nodes => rw [hfit _ _ hn, hfit _ _ hn]
  · obtain ⟨e, n, v, rfl, -, -, hev, -⟩ :=
      (@findNodeForPod_spec srt w alpha enablePreemption podReq t).2.2 a ha
    have hfail := hev.fails_snapshot hq
    exact ⟨e, n, v, rfl, hfail, fun nodes _ hsome => by
      rw [firstFit_admits hsome] at hfail
      cases hfail⟩

/-- With Prometheus down every fetch gives the defaults, and the eviction of the batch job
does not change where the heavy pod goes. -/
theorem findNodeForPod_preemption_futile_crowdedWorld :
    (∀ s n, getNodeStats (crowdedWorld.metrics s) n = getNodeStats promDown n) ∧
      (findNodeForPod insertionPrioritySort crowdedWorld 0.8 true
          (extractPodRequirements heavyPod) 1).1 =
        (findNodeForPod insertionPrioritySort crowdedWorld 0.8 false
          (extractPodRequirements heavyPod) 1).1 :=
  ⟨fun _ _ => rfl, (findNodeForPod_preemption_futile insertionPrioritySort crowdedWorld 0.8 true
    (extractPodRequirements heavyPod) 1 (getNodeStats promDown) fun _ _ => rfl).2.1⟩

/-- `findNodeForPod` never passes over a node that fits throughout: whatever the cluster answers,
if a listed node is ready and schedulable and every fetch of its stats admits the demand, a node
is returned, and it is that node or one listed ready and schedulable before it. -/
theorem findNodeForPod_finds_fitting_node (srt : PrioritySort) (w : World) (alpha : ℚ)
    (enablePreemption : Bool) (podReq : PodRequest) (t : ℕ) (pre : List Node) (node : Node)
    (post : List Node) (hlist : w.listNodes t = .ok (pre ++ node :: post))
    (hready : isNodeReady node = true) (hsched : node.unschedulable = false)
    (hadm : ∀ s, canScheduleMulti podReq (getNodeStats (w.metrics s) node.name) alpha = true) :
    ∃ n, (findNodeForPod srt w alpha enablePreemption podReq t).1 = .ok n ∧
      (n = node.name ∨
        ∃ x ∈ pre, x.name = n ∧ isNodeReady x = true ∧ x.unschedulable = false) := by
  obtain ⟨n, hn, hwhich⟩ := @findNodeFrom_some_of_admits srt w alpha enablePreemption podReq pre
    node post (t + 1) hready hsched hadm
  rw [findNodeForPod_of_listNodes hlist, hn]
  exact ⟨n, rfl, hwhich⟩

/-- `node2` fits the heavy pod at every fetch, behind `node1`, which does not. -/
theorem findNodeForPod_finds_fitting_node_twoNodeWorld :
    twoNodeWorld.listNodes 1 = .ok ([readyNode] ++ spareNode :: []) ∧
      isNodeReady spareNode = true ∧ spareNode.unschedulable = false ∧
      (∀ s, canScheduleMulti (extractPodRequirements heavyPod)
        (getNodeStats (twoNodeWorld.metrics s) spareNode.name) 0.8 = true) ∧
      ∃ n, (findNodeForPod insertionPrioritySort twoNodeWorld 0.8 true
        (extractPodRequirements heavyPod) 1).1 = .ok n ∧
        (n = spareNode.name ∨ ∃ x ∈ [readyNode], x.name = n ∧ isNodeReady x = true ∧
          x.unschedulable = false) :=
  have hadm : ∀ s, canScheduleMulti (extractPodRequirements heavyPod)
      (getNodeStats (twoNodeWorld.metrics s) spareNode.name) 0.8 = true := fun _ => by
    rw [extractPodRequirements_heavyPod.1]
    exact heavyPod_admission.2
  ⟨rfl, rfl, rfl, hadm, findNodeForPod_finds_fitting_node insertionPrioritySort twoNodeWorld 0.8
    true (extractPodRequirements heavyPod) 1 [readyNode] spareNode [] rfl rfl rfl hadm⟩

/-- When every node listing is the same and every fetch of a node's stats gives the same stats,
one listing's loop binds each pod not being deleted to its own first fit on those stats: no
binding depends on the bindings made before it in the pass, so pods that each fit a node alone
are all bound to it. -/
theorem schedulePods_ignores_own_bindings (srt : PrioritySort) (w : World) (alpha : ℚ)
    (enablePreemption : Bool) (snap : String → NodeStats) (nodes : List Node)
    (hq : ∀ s n, getNodeStats (w.metrics s) n = snap n) (hn : ∀ s, w.listNodes s = .ok nodes)
    (pods : List PendingPod) (t : ℕ) :
    (schedulePods srt w alpha enablePreemption pods t).actions.filterMap Action.binding =
      pods.filterMap fun p => if p.deleting then none else snapshotBinding snap alpha nodes p.pod := by
  induction pods generalizing t with
  | nil => rfl
  | cons p ps ih =>
    dsimp only [schedulePods]
    split_ifs with hdel
    · simp [hdel, ih]
    · rw [Trace.actions_append, List.filterMap_append, placePod_bindings_of_snapshot hq hn, ih,
        List.filterMap_cons, if_neg hdel]
      cases snapshotBinding snap alpha nodes p.pod <;> rfl

/-- Both heavy pods fit `node2` alone and are both bound to it, though it has room for one. -/
theorem schedulePods_ignores_own_bindings_twoNodeWorld :
    ((∀ s n, getNodeStats (twoNodeWorld.metrics s) n = getNodeStats loadedProm n) ∧
        ∀ s, twoNodeWorld.listNodes s = .ok [readyNode, spareNode]) ∧
      (schedulePods insertionPrioritySort twoNodeWorld 0.8 true
          [⟨heavyPod, false⟩, ⟨heavyPod2, false⟩] 1).actions.filterMap Action.binding =
        [(heavyPod, "node2"), (heavyPod2, "node2")] :=
  have hsnap : ([⟨heavyPod, false⟩, ⟨heavyPod2, false⟩] : List PendingPod).filterMap (fun p =>
      if p.deleting then none
      else snapshotBinding (getNodeStats loadedProm) 0.8 [readyNode, spareNode] p.pod) =
        [(heavyPod, "node2"), (heavyPod2, "node2")] := by
    simp [snapshotBinding, firstFit, extractPodRequirements_heavyPod, heavyPod_admission,
      readyNode, spareNode, isNodeReady]
  ⟨⟨fun _ _ => rfl, fun _ => rfl⟩, (schedulePods_ignores_own_bindings insertionPrioritySort
    twoNodeWorld 0.8 true (getNodeStats loadedProm) [readyNode, spareNode] (fun _ _ => rfl)
    (fun _ => rfl) _ 1).trans hsnap⟩

/-- Every pass whose pod listing succeeds binds each listed pod not being deleted that some node
fits throughout: whatever the other nodes' stats and the evictions and bindings made before it
in the pass, the pod is bound when every node listing has a node, ready and schedulable, whose
every stats fetch admits it, and no node with the empty name. -/
theorem watchPass_binds_each_fitting_pod (srt : PrioritySort) (w : World) (alpha : ℚ)
    (enablePreemption : Bool) (t : ℕ) (node : Node)
    (hlist : ∀ s, ∃ nodes, w.listNodes s = .ok nodes ∧ node ∈ nodes ∧ ∀ x ∈ nodes, x.name ≠ "")
    (hready : isNodeReady node = true) (hsched : node.unschedulable = false)
    (pods : List PendingPod) (hpods : w.listUnscheduled t = .ok pods) (p : PendingPod)
    (hp : p ∈ pods) (hpd : p.deleting = false)
    (hadm : ∀ s, canScheduleMulti (extractPodRequirements p.pod)
      (getNodeStats (w.metrics s) node.name) alpha = true) :
    ∃ n, (p.pod, n) ∈
      (watchPass srt w alpha enablePreemption t).actions.filterMap Action.binding := by
  unfold watchPass
  rw [hpods]
  exact @schedulePods_binds_of_fits srt w alpha enablePreemption _ _ hlist hready hsched hpd hadm
    _ hp (t + 1)

/-- The second heavy pod, listed after the first, is bound: `node2` fits it at every fetch. -/
theorem watchPass_binds_each_fitting_pod_twoNodeWorld :
    (∀ s, ∃ nodes, twoNodeWorld.listNodes s = .ok nodes ∧ spareNode ∈ nodes ∧
        ∀ x ∈ nodes, x.name ≠ "") ∧
      isNodeReady spareNode = true ∧ spareNode.unschedulable = false ∧
      twoNodeWorld.listUnscheduled 0 = .ok [⟨heavyPod, false⟩, ⟨heavyPod2, false⟩] ∧
      (∀ s, canScheduleMulti (extractPodRequirements heavyPod2)
        (getNodeStats (twoNodeWorld.metrics s) spareNode.name) 0.8 = true) ∧
      ∃ n, (heavyPod2, n) ∈
        (watchPass insertionPrioritySort twoNodeWorld 0.8 true 0).actions.filterMap
          Action.binding :=
  have hlist : ∀ s, ∃ nodes, twoNodeWorld.listNodes s = .ok nodes ∧ spareNode ∈ nodes ∧
      ∀ x ∈ nodes, x.name ≠ "" :=
    fun _ => ⟨[readyNode, spareNode], rfl, by simp, by simp [readyNode, spareNode]⟩
  have hadm : ∀ s, canScheduleMulti (extractPodRequirements heavyPod2)
      (getNodeStats (twoNodeWorld.metrics s) spareNode.name) 0.8 = true := fun _ => by
    rw [extractPodRequirements_heavyPod.2]
    exact heavyPod_admission.2
  ⟨hlist, rfl, rfl, rfl, hadm, watchPass_binds_each_fitting_pod insertionPrioritySort twoNodeWorld
    0.8 true 0 spareNode hlist rfl rfl _ rfl ⟨heavyPod2, false⟩ (by simp) rfl hadm⟩

end MultiResource.Preemptive
