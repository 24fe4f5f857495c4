import Centralisd.Orchestrator.AllowedClusters
import Centralisd.Orchestrator.Commands

/-!
# Centralisd — the queries of the store

The `Store` of `src/orchestrator/registry/registry.go` as one value: the
masters, the TTL and the allowed clusters. `UpsertMaster` is one call here;
as instants are arguments, an interleaving of calls leaves a store that some
sequence of calls leaves too.

`for … range` over a Go map visits the entries in an order of its own each
time; where a result depends on it, the order is an argument (`order`).

* `clusterViews_agree_iff` — the sidebar lists the clusters that the router
  serves exactly when the store has no allowed clusters or the table of them
  has a row;
* `routing_agrees_iff` — every node that a cluster's page finds is routable
  exactly when the cluster's ID has no white space around it.
-/

namespace Centralisd.Orchestrator

/-! ## `Store` -/

structure Store where
  masters : Masters
  ttl : Int
  allowed : Option AllowedClusters

/-- `NewStore`, with durations in nanoseconds. -/
def newStore (ttl : Int) (allowed : Option AllowedClusters) : Store where
  masters := ∅
  ttl := if ttl ≤ 0 then 60 * 1000000000 else ttl
  allowed := allowed

/-- What `UpsertMaster` learns from the allowed clusters. -/
def Store.verdict (s : Store) (faults : Faults) (clusterID : String) : Verdict :=
  s.allowed.map fun a => a.isAllowed faults clusterID

def Store.upsertMaster (s : Store) (faults : Faults) (now : Int) (mi : MasterInfo) : Bool × Store :=
  if mi.id = "" then (false, s)
  else if (s.verdict faults mi.cluster).passes = false then (false, s)
  else (true, { s with masters := s.masters.insert mi.id ⟨mi, now⟩ })

/-- The entries of the map. -/
def Store.values (s : Store) : List MasterEntry := s.masters.entries.map Sigma.snd

/-- The loop of the queries that derive the clusters from the masters. -/
def Store.freshMasters (s : Store) (now : Int) : List MasterEntry :=
  s.values.filter fun m => m.fresh s.ttl now

def Store.activeClusters (s : Store) (faults : Faults) (now : Int) : List String :=
  match s.allowed.map (AllowedClusters.list · faults) with
  | some (.ok clusters) => clusters
  | _ =>
    -- fallback: derive from active masters
    sortStrings (((s.freshMasters now).map fun m => m.cluster).filter (· ≠ "")).dedup

def Store.isKnownCluster (s : Store) (faults : Faults) (now : Int) (clusterID : String) : Bool :=
  if clusterID = "" then false
  else match s.verdict faults clusterID with
    | some (.ok ok) => ok
    | _ => (s.freshMasters now).any fun m => m.cluster == clusterID

def Store.isClusterOnline (s : Store) (now : Int) (clusterID : String) : Bool :=
  if clusterID = "" then false
  else s.values.any fun m => (m.cluster == clusterID) && m.fresh s.ttl now

/-- `MastersForCluster`, in the order its loop takes. -/
def Store.mastersForCluster (s : Store) (order : List MasterEntry) (now : Int)
    (clusterID : String) : List MasterEntry :=
  if clusterID = "" then []
  else order.filter fun m => decide (m.cluster = clusterID) && m.fresh s.ttl now

/-- `NodesForCluster`, in the order its loop takes. -/
def Store.nodesForCluster (s : Store) (order : List MasterEntry) (now : Int)
    (clusterID : String) : List NodeInfo :=
  if clusterID = "" then []
  else (order.filter fun m => decide (m.cluster = clusterID) && m.fresh s.ttl now).flatMap
    fun m => m.nodes

/-- `findNode` of `src/orchestrator/web/main.go`. -/
def findNode (nodes : List NodeInfo) (raw : String) : Option NodeInfo :=
  if trimSpace raw = "" then none else nodes.find? fun node => node.id == trimSpace raw

/-- `SendClusterCommandWait` up to its call of `sendCommandWait`, on the
masters in the order `MastersForCluster` returned them. -/
def Store.selectMaster (s : Store) (order : List MasterEntry) (now : Int) (req : TargetRequest) :
    Except String MasterEntry :=
  Orchestrator.selectMaster req.trimmed (s.mastersForCluster order now req.trimmed.clusterID)

/-! ## Stores that `UpsertMaster` leaves -/

/-- A call of `UpsertMaster`: which database calls fail in it, when it reads
the clock, and its record. -/
structure UpsertCall where
  faults : Faults := {}
  now : Int
  mi : MasterInfo

def Store.upserts (s : Store) (calls : List UpsertCall) : Store :=
  calls.foldl (fun s call => (s.upsertMaster call.faults call.now call.mi).2) s

/-- What every call keeps: entries are stored under their own ID, which is
not empty, and their clusters are allowed. -/
structure Store.Inv (s : Store) : Prop where
  ids : ∀ k e, s.masters.lookup k = some e → e.id = k ∧ k ≠ ""
  allowed : ∀ k e a, s.masters.lookup k = some e → s.allowed = some a →
    a.rows = [] ∨ e.cluster ∈ a.rows

theorem inv_newStore (ttl : Int) (allowed : Option AllowedClusters) :
    (newStore ttl allowed).Inv where
  ids := fun _ _ h => absurd h (by simp [newStore])
  allowed := fun _ _ _ h => absurd h (by simp [newStore])

theorem upsertMaster_cases (s : Store) (faults : Faults) (now : Int) (mi : MasterInfo) :
    s.upsertMaster faults now mi = (false, s) ∨
      (mi.id ≠ "" ∧ (s.verdict faults mi.cluster).passes = true ∧
        s.upsertMaster faults now mi =
          (true, { s with masters := s.masters.insert mi.id ⟨mi, now⟩ })) := by
  unfold Store.upsertMaster
  by_cases hid : mi.id = ""
  · exact .inl (if_pos hid)
  · rw [if_neg hid]
    by_cases hpasses : (s.verdict faults mi.cluster).passes = false
    · exact .inl (if_pos hpasses)
    · rw [if_neg hpasses]
      exact .inr ⟨hid, Bool.not_eq_false _ ▸ hpasses, rfl⟩

/-- A verdict that passes is that of a table without rows or with the
cluster's. -/
theorem mem_rows_of_passes {s : Store} {faults : Faults} {c : String} {a : AllowedClusters}
    (ha : s.allowed = some a) (h : (s.verdict faults c).passes = true) :
    a.rows = [] ∨ c ∈ a.rows := by
  rw [Store.verdict, ha, Option.map_some] at h
  cases hres : a.isAllowed faults c with
  | error err => simp [hres, Verdict.passes] at h
  | ok ok =>
    rw [hres] at h
    obtain rfl : ok = true := h
    exact mem_rows_of_isAllowed hres

theorem inv_upsertMaster {s : Store} (hs : s.Inv) (faults : Faults) (now : Int) (mi : MasterInfo) :
    (s.upsertMaster faults now mi).2.Inv := by
  rcases upsertMaster_cases s faults now mi with heq | ⟨hid, hpasses, heq⟩
  · rw [heq]
    exact hs
  · rw [heq]
    constructor
    · intro k e h
      by_cases hk : k = mi.id
      · subst hk
        rw [AList.lookup_insert, Option.some.injEq] at h
        subst h
        exact ⟨rfl, hid⟩
      · rw [AList.lookup_insert_ne hk] at h
        exact hs.ids k e h
    · intro k e a h ha
      by_cases hk : k = mi.id
      · subst hk
        rw [AList.lookup_insert, Option.some.injEq] at h
        subst h
        exact mem_rows_of_passes ha hpasses
      · rw [AList.lookup_insert_ne hk] at h
        exact hs.allowed k e a h ha

theorem upserts_inv {s : Store} (hs : s.Inv) (calls : List UpsertCall) :
    (s.upserts calls).Inv ∧ (s.upserts calls).allowed = s.allowed := by
  induction calls generalizing s with
  | nil => exact ⟨hs, rfl⟩
  | cons call calls ih =>
    have hstep := inv_upsertMaster hs call.faults call.now call.mi
    have hallowed : (s.upsertMaster call.faults call.now call.mi).2.allowed = s.allowed := by
      rcases upsertMaster_cases s call.faults call.now call.mi with heq | ⟨-, -, heq⟩ <;> rw [heq]
    obtain ⟨hinv, hall⟩ := ih hstep
    exact ⟨hinv, hall.trans hallowed⟩

/-! ## The sidebar and the router -/

/-- What the queries say of a cluster is the same, and no online cluster is
left out. -/
structure ClusterViewsAgree (s : Store) (now : Int) : Prop where
  known : ∀ c, c ≠ "" → (c ∈ s.activeClusters {} now ↔ s.isKnownCluster {} now c = true)
  online : ∀ c, c ≠ "" → s.isClusterOnline now c = true → c ∈ s.activeClusters {} now

theorem mem_values {s : Store} {m : MasterEntry} :
    m ∈ s.values ↔ ∃ k, s.masters.lookup k = some m := by
  rw [Store.values, List.mem_map]
  constructor
  · rintro ⟨⟨k, m'⟩, he, rfl⟩
    exact ⟨k, AList.mem_lookup_iff.mpr he⟩
  · rintro ⟨k, h⟩
    exact ⟨⟨k, m⟩, AList.mem_lookup_iff.mp h, rfl⟩

theorem isClusterOnline_iff {s : Store} {now : Int} {c : String} (hc : c ≠ "") :
    s.isClusterOnline now c = true ↔ ∃ m ∈ s.freshMasters now, m.cluster = c := by
  rw [Store.isClusterOnline, if_neg hc, List.any_eq_true]
  constructor
  · rintro ⟨m, hm, h⟩
    rw [Bool.and_eq_true, beq_iff_eq] at h
    exact ⟨m, List.mem_filter.mpr ⟨hm, h.2⟩, h.1⟩
  · rintro ⟨m, hm, rfl⟩
    obtain ⟨hmem, hfresh⟩ := List.mem_filter.mp hm
    exact ⟨m, hmem, by rw [beq_self_eq_true, hfresh, Bool.and_self]⟩

/-- Without allowed clusters the masters decide. -/
theorem clusters_of_masters {s : Store} (ha : s.allowed = none) (now : Int)
    {c : String} (hc : c ≠ "") :
    (c ∈ s.activeClusters {} now ↔ ∃ m ∈ s.freshMasters now, m.cluster = c) ∧
      (s.isKnownCluster {} now c = true ↔ ∃ m ∈ s.freshMasters now, m.cluster = c) := by
  constructor
  · rw [Store.activeClusters, ha, Option.map_none]
    dsimp only
    rw [mem_sortStrings, List.mem_dedup, List.mem_filter, List.mem_map]
    simp [hc]
  · rw [Store.isKnownCluster, if_neg hc, Store.verdict, ha, Option.map_none]
    simp

/-- With them, the table decides; the queries read it in two ways. -/
theorem clusters_of_rows {s : Store} {a : AllowedClusters} (ha : s.allowed = some a) (now : Int)
    {c : String} (hc : c ≠ "") :
    (c ∈ s.activeClusters {} now ↔ c ∈ a.rows) ∧
      (s.isKnownCluster {} now c = true ↔ a.rows = [] ∨ c ∈ a.rows) := by
  constructor
  · rw [Store.activeClusters, ha, Option.map_some, list_ok]
    exact mem_sortStrings
  · rw [Store.isKnownCluster, if_neg hc, Store.verdict, ha, Option.map_some, isAllowed_ok]
    simp [hc]

/-- **The cluster views.** For every store that `UpsertMaster` calls leave
and every instant, the sidebar's clusters are those that the router serves,
with every online one among them, if and only if the table of allowed
clusters, where the store has one, is not empty. -/
theorem clusterViews_agree_iff (ttl : Int) (allowed : Option AllowedClusters)
    (calls : List UpsertCall) (now : Int) :
    ClusterViewsAgree ((newStore ttl allowed).upserts calls) now ↔
      ∀ a, allowed = some a → a.rows ≠ [] := by
  obtain ⟨hs, hallowed⟩ := upserts_inv (inv_newStore ttl allowed) calls
  generalize (newStore ttl allowed).upserts calls = s at hs hallowed ⊢
  replace hallowed : s.allowed = allowed := hallowed
  subst hallowed
  constructor
  · rintro ⟨hknown, -⟩ a ha hrows
    -- every cluster is known to the router, none is listed
    have hc : "default" ≠ "" := by decide
    obtain ⟨hactive, hrouter⟩ := clusters_of_rows ha now hc
    have hmem := (hknown "default" hc).mpr (hrouter.mpr (.inl hrows))
    exact absurd (hrows ▸ hactive.mp hmem) List.not_mem_nil
  · intro hrows
    cases ha : s.allowed with
    | none =>
      refine ⟨fun c hc => ?_, fun c hc honline => ?_⟩
      · obtain ⟨hactive, hrouter⟩ := clusters_of_masters ha now hc
        exact hactive.trans hrouter.symm
      · exact (clusters_of_masters ha now hc).1.mpr ((isClusterOnline_iff hc).mp honline)
    | some a =>
      refine ⟨fun c hc => ?_, fun c hc honline => ?_⟩
      · obtain ⟨hactive, hrouter⟩ := clusters_of_rows ha now hc
        rw [hactive, hrouter]
        exact (or_iff_right (hrows a ha)).symm
      · -- the cluster of a stored master was allowed when it was stored
        obtain ⟨m, hm, rfl⟩ := (isClusterOnline_iff hc).mp honline
        obtain ⟨k, hk⟩ := mem_values.mp (List.mem_filter.mp hm).1
        exact (clusters_of_rows ha now hc).1.mpr ((hs.allowed k m a hk ha).resolve_left (hrows a ha))

/-- The record of a master of the cluster `a`, in the closed examples. -/
def clusterMaster (cluster : String) : MasterInfo :=
  { id := "m", cluster := cluster, nodes := [{ id := "n" }] }

/-- With an empty table an accepted online master's cluster is known to the
router and missing from the sidebar. -/
theorem emptyTable_not_agree :
    ∃ s, s = (newStore 0 (some AllowedClusters.empty)).upserts
        [{ now := 0, mi := clusterMaster "a" }] ∧
      s.isClusterOnline 1 "a" = true ∧ s.isKnownCluster {} 1 "a" = true ∧
      s.activeClusters {} 1 = [] ∧ ¬ ClusterViewsAgree s 1 := by
  have hlist : ((newStore 0 (some AllowedClusters.empty)).upserts
      [{ now := 0, mi := clusterMaster "a" }]).activeClusters {} 1 = [] := List.mergeSort_nil
  refine ⟨_, rfl, by decide, by decide, hlist, fun h => ?_⟩
  have hmem := h.online "a" (by decide) (by decide)
  rw [hlist] at hmem
  exact absurd hmem List.not_mem_nil

/-! ## The pages and the routing of commands -/

/-- Every node that the page of the cluster `c` finds, whatever the order in
which the page's loop took the masters, gets a master of the cluster that
has it, whatever the order in which the router's loop takes them. -/
def NodesRoutable (s : Store) (now : Int) (c : String) : Prop :=
  ∀ order order' : List MasterEntry, order.Perm s.values → order'.Perm s.values →
    ∀ raw n, findNode (s.nodesForCluster order now c) raw = some n →
      ∃ m, s.selectMaster order' now
          { clusterID := c, nodeID := n.id, scope := .targetMasterByNode } = .ok m ∧
        m ∈ s.mastersForCluster order' now c ∧ masterHasNode m n.id = true

/-- The queries of a cluster and the routing of commands to it say the same. -/
structure RoutingAgrees (s : Store) (now : Int) (c : String) : Prop where
  online : ∀ order : List MasterEntry, order.Perm s.values →
    (s.isClusterOnline now c = true ↔ s.mastersForCluster order now c ≠ [])
  nodes : ∀ order order' : List MasterEntry, order.Perm s.values → order'.Perm s.values →
    (s.nodesForCluster order now c).Perm
      ((s.mastersForCluster order' now c).flatMap fun m => m.nodes)
  routed : NodesRoutable s now c

/-- `findNode` can find the node: its ID is a trimmed one. -/
def Findable (n : NodeInfo) : Prop := n.id ≠ "" ∧ trimSpace n.id = n.id

theorem ne_nil_iff_exists {ms : List MasterEntry} : ms ≠ [] ↔ ∃ m, m ∈ ms := by
  constructor
  · exact List.exists_mem_of_ne_nil ms
  · rintro ⟨m, hm⟩
    exact List.ne_nil_of_mem hm

theorem mem_masters_iff {s : Store} {order : List MasterEntry} (ho : order.Perm s.values)
    {now : Int} {c : String} (hc : c ≠ "") {m : MasterEntry} :
    m ∈ s.mastersForCluster order now c ↔
      m ∈ s.values ∧ m.cluster = c ∧ m.fresh s.ttl now = true := by
  rw [Store.mastersForCluster, if_neg hc, List.mem_filter, ho.mem_iff, Bool.and_eq_true,
    decide_eq_true_eq]

theorem nodesForCluster_eq (s : Store) (order : List MasterEntry) (now : Int) (c : String) :
    s.nodesForCluster order now c =
      (s.mastersForCluster order now c).flatMap fun m => m.nodes := by
  unfold Store.nodesForCluster Store.mastersForCluster
  split
  · exact List.flatMap_nil.symm
  · rfl

theorem masters_perm {s : Store} {order order' : List MasterEntry} (ho : order.Perm s.values)
    (ho' : order'.Perm s.values) (now : Int) (c : String) :
    (s.mastersForCluster order now c).Perm (s.mastersForCluster order' now c) := by
  unfold Store.mastersForCluster
  split
  · exact .refl _
  · exact (ho.trans ho'.symm).filter _

theorem findNode_some {nodes : List NodeInfo} {raw : String} {n : NodeInfo}
    (h : findNode nodes raw = some n) : n ∈ nodes ∧ Findable n := by
  unfold findNode at h
  split at h
  · cases h
  · next hraw =>
    have hid : n.id = trimSpace raw := by simpa using List.find?_some h
    refine ⟨List.mem_of_find?_eq_some h, ?_, ?_⟩
    · rwa [hid]
    · rw [hid, trimSpace_idem]

/-- A node that can be found is, by its own ID as the segment. -/
theorem findNode_of_mem {nodes : List NodeInfo} {n : NodeInfo} (hn : n ∈ nodes)
    (hfind : Findable n) : ∃ n', findNode nodes n.id = some n' := by
  obtain ⟨hid, htrim⟩ := hfind
  have hsome : (nodes.find? fun node => node.id == n.id).isSome = true :=
    List.find?_isSome.mpr ⟨n, hn, beq_self_eq_true n.id⟩
  rw [findNode, htrim, if_neg hid]
  exact Option.isSome_iff_exists.mp hsome

theorem masterHasNode_iff {m : MasterEntry} {id : String} (hid : id ≠ "") :
    masterHasNode m id = true ↔ ∃ n ∈ m.nodes, n.id = id := by
  rw [masterHasNode, if_neg hid, List.any_eq_true]
  simp only [beq_iff_eq]

/-- Under a trimmed cluster ID every node that can be found is routable. -/
theorem nodesRoutable_of_trimmed {s : Store} (hs : s.Inv) {now : Int} {c : String} (hc : c ≠ "")
    (htrim : trimSpace c = c) : NodesRoutable s now c := by
  intro order order' ho ho' raw n hfind
  obtain ⟨hn, hid, hnode⟩ := findNode_some hfind
  rw [nodesForCluster_eq, List.mem_flatMap] at hn
  obtain ⟨m, hm, hnm⟩ := hn
  have hm' : m ∈ s.mastersForCluster order' now c := (masters_perm ho ho' now c).mem_iff.mp hm
  have hmid : m.id ≠ "" := by
    obtain ⟨k, hk⟩ := mem_values.mp ((mem_masters_iff ho hc).mp hm).1
    obtain ⟨rfl, hk'⟩ := hs.ids k m hk
    exact hk'
  have hhas : masterHasNode m n.id = true := (masterHasNode_iff hid).mpr ⟨n, hnm, rfl⟩
  obtain ⟨m', hsel⟩ : ∃ m', Orchestrator.selectMaster
      { clusterID := c, nodeID := n.id, scope := .targetMasterByNode }
      (s.mastersForCluster order' now c) = .ok m' :=
    selectMaster_exists hc rfl hid hm' hmid hhas
  obtain ⟨hmem, -, hhas'⟩ := selectMaster_ok rfl hsel
  refine ⟨m', ?_, hmem, hhas'⟩
  rw [Store.selectMaster, TargetRequest.trimmed, htrim, hnode]
  exact hsel

/-- Under another one, none is: the router looks the masters up under the
trimmed ID. -/
theorem not_routed_of_untrimmed {s : Store} {order : List MasterEntry} {now : Int} {c : String}
    (htrim : trimSpace c ≠ c) {req : TargetRequest} {m : MasterEntry}
    (hreq : req.clusterID = c) (hscope : req.scope = .targetMasterByNode)
    (hsel : s.selectMaster order now req = .ok m) : m ∉ s.mastersForCluster order now c := by
  intro hm
  have hscope' : req.trimmed.scope = .targetMasterByNode := hscope
  obtain ⟨hmem, -⟩ := selectMaster_ok hscope' hsel
  have hcluster : ∀ d, m ∈ s.mastersForCluster order now d → m.cluster = d := by
    intro d hd
    unfold Store.mastersForCluster at hd
    split at hd
    · exact absurd hd List.not_mem_nil
    · have hd' := (List.mem_filter.mp hd).2
      rw [Bool.and_eq_true, decide_eq_true_eq] at hd'
      exact hd'.1
  have hd : trimSpace c = m.cluster := by rw [hcluster _ hmem, ← hreq, TargetRequest.trimmed]
  exact htrim (hd.trans (hcluster c hm))

/-- **Queries and routing.** For every store that `UpsertMaster` calls leave,
every instant and every cluster ID, the queries and the routing agree if and
only if the cluster ID has no white space around it, or no online master of
the cluster reports a node that can be found. -/
theorem routing_agrees_iff (ttl : Int) (allowed : Option AllowedClusters)
    (calls : List UpsertCall) (now : Int) (c : String) (hc : c ≠ "") :
    RoutingAgrees ((newStore ttl allowed).upserts calls) now c ↔
      trimSpace c = c ∨
        ∀ m ∈ ((newStore ttl allowed).upserts calls).freshMasters now, m.cluster = c →
          ∀ n ∈ m.nodes, ¬ Findable n := by
  have hs := (upserts_inv (inv_newStore ttl allowed) calls).1
  generalize (newStore ttl allowed).upserts calls = s at hs ⊢
  constructor
  · intro h
    by_cases htrim : trimSpace c = c
    · exact .inl htrim
    · right
      intro m hm hmc n hn hfind
      obtain ⟨hmv, hfresh⟩ := List.mem_filter.mp hm
      have hmem : m ∈ s.mastersForCluster s.values now c :=
        (mem_masters_iff (.refl _) hc).mpr ⟨hmv, hmc, hfresh⟩
      have hnode : n ∈ s.nodesForCluster s.values now c := by
        rw [nodesForCluster_eq]
        exact List.mem_flatMap.mpr ⟨m, hmem, hn⟩
      obtain ⟨n', hn'⟩ := findNode_of_mem hnode hfind
      obtain ⟨m', hsel, hm', -⟩ := h.routed _ _ (.refl _) (.refl _) _ _ hn'
      exact not_routed_of_untrimmed htrim rfl rfl hsel hm'
  · intro h
    constructor
    · intro order ho
      rw [isClusterOnline_iff hc, ne_nil_iff_exists]
      refine exists_congr fun m => ?_
      rw [mem_masters_iff ho hc, Store.freshMasters, List.mem_filter, and_assoc]
      exact and_congr_right fun _ => and_comm
    · intro order order' ho ho'
      rw [nodesForCluster_eq]
      exact (masters_perm ho ho' now c).flatMap_right _
    · rcases h with htrim | hnone
      · exact nodesRoutable_of_trimmed hs hc htrim
      · -- the page finds nothing
        intro order order' ho ho' raw n hfind
        obtain ⟨hn, hn'⟩ := findNode_some hfind
        rw [nodesForCluster_eq, List.mem_flatMap] at hn
        obtain ⟨m, hm, hnm⟩ := hn
        obtain ⟨hmv, hmc, hfresh⟩ := (mem_masters_iff ho hc).mp hm
        exact absurd hn' (hnone m (List.mem_filter.mpr ⟨hmv, hfresh⟩) hmc n hnm)

theorem routing_agrees_iff_default :
    RoutingAgrees ((newStore 0 none).upserts [{ now := 0, mi := clusterMaster "default" }]) 1
      "default" :=
  (routing_agrees_iff 0 none _ 1 "default" (by decide)).mpr (.inl (by decide))

/-- A master of the cluster ` a` is displayed with its node, and a command to
the node finds no master. -/
theorem blankCluster_not_agree :
    ∃ s, s = (newStore 0 none).upserts [{ now := 0, mi := clusterMaster " a" }] ∧
      s.isKnownCluster {} 1 " a" = true ∧
      findNode (s.nodesForCluster s.values 1 " a") "n" = some { id := "n" } ∧
      s.selectMaster s.values 1
          { clusterID := " a", nodeID := "n", scope := .targetMasterByNode } =
        .error "master not connected" ∧
      ¬ RoutingAgrees s 1 " a" := by
  have hfound : findNode (((newStore 0 none).upserts
      [{ now := 0, mi := clusterMaster " a" }]).nodesForCluster (((newStore 0 none).upserts
      [{ now := 0, mi := clusterMaster " a" }]).values) 1 " a") "n" = some { id := "n" } := by
    decide
  refine ⟨_, rfl, by decide, hfound, by decide, fun h => ?_⟩
  obtain ⟨m, hsel, -⟩ := h.routed _ _ (.refl _) (.refl _) _ _ hfound
  cases hsel

end Centralisd.Orchestrator
