import Centralisd.Orchestrator.Registry

/-!
# Centralisd — routing and the order of the map

`SendClusterCommandWait` of `src/orchestrator/tcp/server.go` takes the first
master that is fit for the request and hands the command to it. A master
stays in the store for the TTL after its connection is gone, so the first fit
one need not be in `masterConns`, and the loop ends there all the same.

* `routing_orderFree_iff` — whether a command is dispatched does not depend
  on the order of the map exactly when all fit masters are connected or none
  of them is.
-/

namespace Centralisd.Orchestrator

/-! ## `SendClusterCommandWait` up to the write -/

/-- What `sendCommandWait` hands to `sendRequest`: the connection and the
command to write on it. -/
structure Dispatch where
  master : MasterEntry
  mc : ConnID
  cmd : OrchestratorCommand

/-- `SendClusterCommandWait` up to the `sendRequest` of its `sendCommandWait`,
when the loop of `MastersForCluster` took the map in the order `order`. -/
def Store.sendClusterCommandWait (s : Store) (conns : ConnTable) (order : List MasterEntry)
    (now : Int) (req : TargetRequest) (command : RawMessage) : Except String Dispatch :=
  match s.selectMaster order now req with
  | .error err => .error err
  | .ok master => match lookupMaster conns master.id with
    -- returned at once: the masters after this one are not tried
    | .error err => .error err
    | .ok mc => .ok ⟨master, mc, ⟨req.trimmed.nodeID, command⟩⟩

/-- The master is in `masterConns`. -/
def Connected (conns : ConnTable) (m : MasterEntry) : Prop :=
  ∃ mc, lookupMaster conns m.id = .ok mc

/-- The loop of `SendClusterCommandWait` does not pass over the master. -/
def TargetRequest.fits (req : TargetRequest) (m : MasterEntry) : Bool :=
  decide (m.id ≠ "") && match req.scope with
    | .targetMasterByNode => masterHasNode m req.nodeID
    | .targetAnyMaster => true
    | .unknown _ => false

/-- The online masters of the request's cluster that are fit for it. -/
def Store.fitMasters (s : Store) (order : List MasterEntry) (now : Int) (req : TargetRequest) :
    List MasterEntry :=
  (s.mastersForCluster order now req.trimmed.clusterID).filter req.trimmed.fits

/-! ## What the loop finds -/

theorem masterHasNode_empty (m : MasterEntry) : masterHasNode m "" = false := if_pos rfl

theorem chooseMaster_eq_ok {req : TargetRequest} {masters : List MasterEntry} {m : MasterEntry} :
    chooseMaster req masters = .ok m ↔ masters.find? req.fits = some m := by
  induction masters with
  | nil =>
    have herror : chooseMaster req [] ≠ .ok m := by
      unfold chooseMaster
      split <;> simp
    exact iff_of_false herror (by simp)
  | cons a rest ih =>
    by_cases hid : a.id = ""
    · have hfits : req.fits a = false := by simp [TargetRequest.fits, hid]
      rw [chooseMaster, if_pos hid, List.find?_cons_of_neg (by simp [hfits]), ih]
    · rw [chooseMaster, if_neg hid]
      cases hscope : req.scope with
      | targetAnyMaster =>
        have hfits : req.fits a = true := by simp [TargetRequest.fits, hid, hscope]
        simp [List.find?_cons_of_pos hfits]
      | unknown scope =>
        -- the error of the `switch`; no master fits such a request
        have hfits : ∀ x, req.fits x = false := by simp [TargetRequest.fits, hscope]
        have hnone : (a :: rest).find? req.fits = none := by simp [hfits]
        rw [hnone]
        simp
      | targetMasterByNode =>
        by_cases hhas : masterHasNode a req.nodeID = true
        · have hfits : req.fits a = true := by simp [TargetRequest.fits, hid, hscope, hhas]
          have hnode : req.nodeID ≠ "" := by
            intro hempty
            rw [hempty, masterHasNode_empty] at hhas
            cases hhas
          simp [List.find?_cons_of_pos hfits, hnode, hhas]
        · have hfits : req.fits a = false := by simp [TargetRequest.fits, hscope, hhas]
          rw [Bool.not_eq_true] at hhas
          simp [hfits, hhas, ih]

/-- The master a request is sent to is the first of the fit ones. -/
theorem selectMaster_eq_ok {s : Store} {order : List MasterEntry} {now : Int}
    {req : TargetRequest} {m : MasterEntry} :
    s.selectMaster order now req = .ok m ↔ (s.fitMasters order now req).head? = some m := by
  unfold Store.selectMaster Store.fitMasters
  rw [List.head?_filter]
  unfold Orchestrator.selectMaster
  by_cases hc : req.trimmed.clusterID = ""
  · have hnil : s.mastersForCluster order now req.trimmed.clusterID = [] := if_pos hc
    rw [if_pos hc, hnil]
    simp
  · rw [if_neg hc]
    split
    · next hlen => simp [List.length_eq_zero_iff.mp hlen]
    · exact chooseMaster_eq_ok

theorem sendClusterCommandWait_eq_ok {s : Store} {conns : ConnTable} {order : List MasterEntry}
    {now : Int} {req : TargetRequest} {command : RawMessage} {d : Dispatch} :
    s.sendClusterCommandWait conns order now req command = .ok d ↔
      (s.fitMasters order now req).head? = some d.master ∧
        lookupMaster conns d.master.id = .ok d.mc ∧ d.cmd = ⟨req.trimmed.nodeID, command⟩ := by
  rw [← selectMaster_eq_ok]
  unfold Store.sendClusterCommandWait
  cases hsel : s.selectMaster order now req with
  | error err => simp
  | ok master =>
    obtain ⟨dmaster, dmc, dcmd⟩ := d
    cases hlookup : lookupMaster conns master.id with
    | error err =>
      simp only [hlookup, Except.ok.injEq, reduceCtorEq, false_iff, not_and]
      rintro rfl h
      rw [hlookup] at h
      cases h
    | ok mc =>
      simp only [hlookup, Except.ok.injEq, Dispatch.mk.injEq]
      constructor
      · rintro ⟨rfl, rfl, rfl⟩
        exact ⟨rfl, hlookup, rfl⟩
      · rintro ⟨rfl, h, rfl⟩
        exact ⟨rfl, Except.ok.inj (hlookup.symm.trans h), rfl⟩

/-! ## Every order at once -/

theorem fitMasters_perm {s : Store} {order order' : List MasterEntry} (h : order.Perm order')
    (now : Int) (req : TargetRequest) :
    (s.fitMasters order now req).Perm (s.fitMasters order' now req) := by
  unfold Store.fitMasters Store.mastersForCluster
  split
  · exact .refl _
  · exact (h.filter _).filter _

/-- Some order of the map puts a given fit master first. -/
theorem exists_order_of_fit {s : Store} {now : Int} {req : TargetRequest} {m : MasterEntry}
    (h : m ∈ s.fitMasters s.values now req) :
    ∃ order, order.Perm s.values ∧ (s.fitMasters order now req).head? = some m := by
  have hcluster : req.trimmed.clusterID ≠ "" := by
    intro hempty
    simp [Store.fitMasters, Store.mastersForCluster, hempty] at h
  rw [Store.fitMasters, Store.mastersForCluster, if_neg hcluster, List.mem_filter,
    List.mem_filter] at h
  obtain ⟨⟨hmem, honline⟩, hfits⟩ := h
  refine ⟨m :: s.values.erase m, (List.perm_cons_erase hmem).symm, ?_⟩
  rw [Store.fitMasters, Store.mastersForCluster, if_neg hcluster]
  simp only [List.filter_cons, honline, hfits, if_true, List.head?_cons]

/-- A request is dispatched alike in every order of the map, and to a
connected master if there is one that fits. -/
structure OrderFree (s : Store) (conns : ConnTable) (now : Int) (req : TargetRequest)
    (command : RawMessage) : Prop where
  /-- dispatched in both orders or in none -/
  agree : ∀ order order' : List MasterEntry, order.Perm s.values → order'.Perm s.values →
    ((∃ d, s.sendClusterCommandWait conns order now req command = .ok d) ↔
      ∃ d, s.sendClusterCommandWait conns order' now req command = .ok d)
  /-- a connected master that advertises the node gets the command -/
  byNode : req.scope = .targetMasterByNode →
    (∃ m ∈ s.mastersForCluster s.values now req.trimmed.clusterID,
      masterHasNode m req.trimmed.nodeID = true ∧ Connected conns m) →
    ∀ order : List MasterEntry, order.Perm s.values →
      ∃ d, s.sendClusterCommandWait conns order now req command = .ok d ∧
        d.master ∈ s.mastersForCluster s.values now req.trimmed.clusterID ∧
        masterHasNode d.master req.trimmed.nodeID = true ∧
        lookupMaster conns d.master.id = .ok d.mc ∧ d.cmd = ⟨req.trimmed.nodeID, command⟩
  /-- any connected master of the cluster gets the command -/
  anyMaster : req.scope = .targetAnyMaster →
    (∃ m ∈ s.mastersForCluster s.values now req.trimmed.clusterID, Connected conns m) →
    ∀ order : List MasterEntry, order.Perm s.values →
      ∃ d, s.sendClusterCommandWait conns order now req command = .ok d ∧
        d.master ∈ s.mastersForCluster s.values now req.trimmed.clusterID ∧
        lookupMaster conns d.master.id = .ok d.mc ∧ d.cmd = ⟨req.trimmed.nodeID, command⟩

section
variable {s : Store} {conns : ConnTable} {now : Int} {req : TargetRequest}

theorem Connected.id_ne {m : MasterEntry} (h : Connected conns m) : m.id ≠ "" := by
  intro hempty
  obtain ⟨mc, hmc⟩ := h
  rw [lookupMaster, if_pos hempty] at hmc
  cases hmc

/-- Dispatched means that the first fit master is connected. -/
theorem dispatched_iff {order : List MasterEntry} {command : RawMessage} :
    (∃ d, s.sendClusterCommandWait conns order now req command = .ok d) ↔
      ∃ m, (s.fitMasters order now req).head? = some m ∧ Connected conns m := by
  constructor
  · rintro ⟨d, hd⟩
    obtain ⟨hhead, hmc, -⟩ := sendClusterCommandWait_eq_ok.mp hd
    exact ⟨d.master, hhead, d.mc, hmc⟩
  · rintro ⟨m, hhead, mc, hmc⟩
    exact ⟨⟨m, mc, _⟩, sendClusterCommandWait_eq_ok.mpr ⟨hhead, hmc, rfl⟩⟩

/-- When all fit masters are connected, one that fits makes every order
dispatch to one that fits. -/
theorem dispatch_of_all_connected
    (hall : ∀ m ∈ s.fitMasters s.values now req, Connected conns m) {m : MasterEntry}
    (hm : m ∈ s.fitMasters s.values now req) {order : List MasterEntry}
    (ho : order.Perm s.values) (command : RawMessage) :
    ∃ d, s.sendClusterCommandWait conns order now req command = .ok d ∧
      d.master ∈ s.fitMasters s.values now req ∧ lookupMaster conns d.master.id = .ok d.mc ∧
      d.cmd = ⟨req.trimmed.nodeID, command⟩ := by
  have hperm := fitMasters_perm (s := s) ho now req
  obtain ⟨first, rest, hcons⟩ : ∃ first rest, s.fitMasters order now req = first :: rest :=
    List.exists_cons_of_ne_nil (List.ne_nil_of_mem (hperm.mem_iff.mpr hm))
  have hfirst : first ∈ s.fitMasters s.values now req :=
    hperm.mem_iff.mp (hcons ▸ List.mem_cons_self)
  obtain ⟨mc, hmc⟩ := hall first hfirst
  exact ⟨⟨first, mc, ⟨req.trimmed.nodeID, command⟩⟩,
    sendClusterCommandWait_eq_ok.mpr ⟨by rw [hcons]; rfl, hmc, rfl⟩, hfirst, hmc, rfl⟩

/-- The masters of the cluster that the scope asks for, once connected, are
fit. -/
theorem mem_fitMasters {m : MasterEntry}
    (hm : m ∈ s.mastersForCluster s.values now req.trimmed.clusterID)
    (hscope : req.scope = .targetAnyMaster ∨
      req.scope = .targetMasterByNode ∧ masterHasNode m req.trimmed.nodeID = true)
    (hid : m.id ≠ "") : m ∈ s.fitMasters s.values now req := by
  refine List.mem_filter.mpr ⟨hm, ?_⟩
  have hsame : req.trimmed.scope = req.scope := rfl
  rcases hscope with h | ⟨h, hhas⟩
  · simp [TargetRequest.fits, hid, hsame, h]
  · simp [TargetRequest.fits, hid, hsame, h, hhas]

theorem masterHasNode_of_fit (hscope : req.scope = .targetMasterByNode) {m : MasterEntry}
    (hm : m ∈ s.fitMasters s.values now req) : masterHasNode m req.trimmed.nodeID = true := by
  obtain ⟨-, hfits⟩ := List.mem_filter.mp hm
  have hscope' : req.trimmed.scope = .targetMasterByNode := hscope
  rw [TargetRequest.fits, hscope', Bool.and_eq_true] at hfits
  exact hfits.2

end

/-- **Routing and the order of the map.** For every store, every
`masterConns`, every instant, request and command: `SendClusterCommandWait`
dispatches alike in every order of the map, and finds a connected fit master
whenever there is one, exactly when all the fit masters are connected or none
of them is. -/
theorem routing_orderFree_iff (s : Store) (conns : ConnTable) (now : Int) (req : TargetRequest)
    (command : RawMessage) :
    OrderFree s conns now req command ↔
      (∀ m ∈ s.fitMasters s.values now req, Connected conns m) ∨
        ∀ m ∈ s.fitMasters s.values now req, ¬ Connected conns m := by
  constructor
  · intro h
    by_contra hmixed
    rw [not_or] at hmixed
    obtain ⟨hsome, hothers⟩ := hmixed
    push Not at hsome hothers
    obtain ⟨gone, hgone, hnot⟩ := hsome
    obtain ⟨live, hlive, hconn⟩ := hothers
    -- one order starts with a live master, another with one that is gone
    obtain ⟨order, ho, hhead⟩ := exists_order_of_fit hlive
    obtain ⟨order', ho', hhead'⟩ := exists_order_of_fit hgone
    obtain ⟨m, hm, hmconn⟩ := dispatched_iff.mp
      ((h.agree order order' ho ho').mp (dispatched_iff.mpr ⟨live, hhead, hconn⟩))
    have hsame : m = gone := Option.some.inj (hm.symm.trans hhead')
    exact hnot (hsame ▸ hmconn)
  · rintro (hall | hnone)
    · refine ⟨?_, ?_, ?_⟩
      · -- some fit master, or none, in either order
        have hforward : ∀ order order' : List MasterEntry, order.Perm s.values →
            order'.Perm s.values →
            (∃ d, s.sendClusterCommandWait conns order now req command = .ok d) →
            ∃ d, s.sendClusterCommandWait conns order' now req command = .ok d := by
          intro order order' ho ho' hd
          obtain ⟨m, hhead, -⟩ := dispatched_iff.mp hd
          have hm : m ∈ s.fitMasters s.values now req :=
            (fitMasters_perm ho now req).mem_iff.mp (List.mem_of_head? hhead)
          obtain ⟨d, hd', -⟩ := dispatch_of_all_connected hall hm ho' command
          exact ⟨d, hd'⟩
        exact fun order order' ho ho' =>
          ⟨hforward order order' ho ho', hforward order' order ho' ho⟩
      · intro hscope ⟨m, hm, hhas, hconn⟩ order ho
        have hfit := mem_fitMasters hm (.inr ⟨hscope, hhas⟩) hconn.id_ne
        obtain ⟨d, hd, hdfit, hmc, hcmd⟩ := dispatch_of_all_connected hall hfit ho command
        exact ⟨d, hd, (List.mem_filter.mp hdfit).1, masterHasNode_of_fit hscope hdfit, hmc, hcmd⟩
      · intro hscope ⟨m, hm, hconn⟩ order ho
        have hfit := mem_fitMasters hm (.inl hscope) hconn.id_ne
        obtain ⟨d, hd, hdfit, hmc, hcmd⟩ := dispatch_of_all_connected hall hfit ho command
        exact ⟨d, hd, (List.mem_filter.mp hdfit).1, hmc, hcmd⟩
    · -- nobody fit is connected: no order dispatches
      have hnever : ∀ order : List MasterEntry, order.Perm s.values →
          ¬ ∃ d, s.sendClusterCommandWait conns order now req command = .ok d := by
        intro order ho hd
        obtain ⟨m, hhead, hconn⟩ := dispatched_iff.mp hd
        exact hnone m ((fitMasters_perm ho now req).mem_iff.mp (List.mem_of_head? hhead)) hconn
      refine ⟨fun order order' ho ho' => iff_of_false (hnever order ho) (hnever order' ho'), ?_, ?_⟩
      · intro hscope ⟨m, hm, hhas, hconn⟩
        exact absurd hconn (hnone m (mem_fitMasters hm (.inr ⟨hscope, hhas⟩) hconn.id_ne))
      · intro hscope ⟨m, hm, hconn⟩
        exact absurd hconn (hnone m (mem_fitMasters hm (.inl hscope) hconn.id_ne))

/-! ## A slave that moved -/

/-- Two masters of one cluster have reported the node; the connection of the
second is still there, that of the first is not. -/
def movedStore : Store :=
  (newStore 0 none).upserts
    [{ now := 0, mi := { id := "old", cluster := "c", nodes := [{ id := "n" }] } },
      { now := 1, mi := { id := "new", cluster := "c", nodes := [{ id := "n" }] } }]

/-- The command goes out when the map yields the connected master first and
is refused when it yields the other first. -/
theorem moved_order_matters :
    ∃ order order' : List MasterEntry, order.Perm movedStore.values ∧
      order'.Perm movedStore.values ∧
      (∃ d, movedStore.sendClusterCommandWait (registerMasterConn KeyedTable.empty "new" 0) order 2
        { clusterID := "c", nodeID := "n", scope := .targetMasterByNode } none = .ok d) ∧
      movedStore.sendClusterCommandWait (registerMasterConn KeyedTable.empty "new" 0) order' 2
          { clusterID := "c", nodeID := "n", scope := .targetMasterByNode } none =
        .error "master not connected" ∧
      ¬ OrderFree movedStore (registerMasterConn KeyedTable.empty "new" 0) 2
        { clusterID := "c", nodeID := "n", scope := .targetMasterByNode } none := by
  have hdispatched : ∃ d, movedStore.sendClusterCommandWait
      (registerMasterConn KeyedTable.empty "new" 0) movedStore.values 2
      { clusterID := "c", nodeID := "n", scope := .targetMasterByNode } none = .ok d := ⟨_, rfl⟩
  have hrefused : movedStore.sendClusterCommandWait
      (registerMasterConn KeyedTable.empty "new" 0) movedStore.values.reverse 2
      { clusterID := "c", nodeID := "n", scope := .targetMasterByNode } none =
        .error "master not connected" := rfl
  refine ⟨_, _, .refl _, List.reverse_perm _, hdispatched, hrefused, fun h => ?_⟩
  obtain ⟨d, hd⟩ := (h.agree _ _ (.refl _) (List.reverse_perm _)).mp hdispatched
  rw [hrefused] at hd
  cases hd

end Centralisd.Orchestrator
