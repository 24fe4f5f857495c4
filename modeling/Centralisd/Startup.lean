import Centralisd.Main
import Centralisd.Orchestrator.Registry

/-!
# Centralisd — restarts of the orchestrator

Every start of the orchestrator (`src/main.go`) adds the clusters of its
`masterwhitelist` to the table of allowed clusters, and gives the TCP server
the masters compiled from the same map. The table lives in the database
file, so what a run consults is the result of every start before it.

* `allowedClusters_follow_iff` — the table follows the configuration exactly
  when no start dropped a cluster that an earlier one named;
* `gates_agree_iff` — a master that `handleConn` accepts is never refused by
  `UpsertMaster` exactly when the configuration lists a master or no start
  has ever named a cluster.
-/

namespace Centralisd

open Orchestrator

/-! ## `main.go` -/

/-- `whitelistClusters`, over the keys in the order its loop takes. -/
def whitelistClusters (order : List String) : List String := order.filter (· ≠ "")

/-- A start: its `masterwhitelist`, and the order in which `whitelistClusters`
enumerates the map. -/
structure Startup where
  wl : MasterWhitelist
  order : List String
  perm : order.Perm wl.keys

/-- The start on a configuration, in the order of the map's entries. -/
def Startup.ofConfig (wl : MasterWhitelist) : Startup := ⟨wl, wl.keys, .refl _⟩

/-- What a start does to the table; the error of `EnsureSeed` is ignored. -/
def startup (a : AllowedClusters) (s : Startup) : AllowedClusters :=
  a.ensureSeed (whitelistClusters s.order)

/-- The table after the starts, on a database file that was new at the first
of them. -/
def startups (history : List Startup) : AllowedClusters :=
  history.foldl startup AllowedClusters.empty

/-- The non-empty cluster IDs of a configuration. -/
def Named (wl : MasterWhitelist) (c : String) : Prop := c ≠ "" ∧ c ∈ wl.keys

instance (wl : MasterWhitelist) (c : String) : Decidable (Named wl c) :=
  inferInstanceAs (Decidable (_ ∧ _))

/-! ## What the table contains -/

theorem mem_startup {a : AllowedClusters} {s : Startup} {c : String} :
    c ∈ (startup a s).rows ↔ c ∈ a.rows ∨ Named s.wl c := by
  rw [startup, mem_ensureSeed, whitelistClusters, List.mem_filter, s.perm.mem_iff, Named]
  simp only [ne_eq, decide_eq_true_eq]
  constructor
  · rintro (h | ⟨hc, hk, -⟩)
    · exact .inl h
    · exact .inr ⟨hc, hk⟩
  · rintro (h | ⟨hc, hk⟩)
    · exact .inl h
    · exact .inr ⟨hc, hk, hc⟩

/-- The table accumulates the clusters of every start. -/
theorem mem_startups {history : List Startup} {c : String} :
    c ∈ (startups history).rows ↔ ∃ s ∈ history, Named s.wl c := by
  -- generalised over the table the starts begin with
  have hfrom : ∀ a : AllowedClusters,
      c ∈ (history.foldl startup a).rows ↔ c ∈ a.rows ∨ ∃ s ∈ history, Named s.wl c := by
    induction history with
    | nil => simp
    | cons s history ih =>
      intro a
      rw [List.foldl_cons, ih, mem_startup, or_assoc, List.exists_mem_cons_iff]
  rw [startups, hfrom]
  exact or_iff_right List.not_mem_nil

theorem startups_rows_eq_nil_iff {history : List Startup} :
    (startups history).rows = [] ↔ ∀ s ∈ history, ∀ c ∈ s.wl.keys, c = "" := by
  rw [List.eq_nil_iff_forall_not_mem]
  simp only [mem_startups, Named, not_exists, not_and]
  constructor
  · intro h s hs c hk
    by_contra hc
    exact h c s hs hc hk
  · intro h c s hs hc hk
    exact hc (h s hs c hk)

/-! ## The table and the configuration -/

/-- `List` returns exactly the configuration's clusters in ascending order,
and, where there are any, `IsAllowed` accepts exactly those. -/
structure FollowsConfiguration (a : AllowedClusters) (wl : MasterWhitelist) : Prop where
  list : ∃ clusters, a.list {} = .ok clusters ∧ clusters.Pairwise (· < ·) ∧
    ∀ c, c ∈ clusters ↔ Named wl c
  allowed : (∃ c, Named wl c) → ∀ c, a.isAllowed {} c = .ok (decide (Named wl c))

theorem followsConfiguration_iff_rows {a : AllowedClusters} {wl : MasterWhitelist} :
    FollowsConfiguration a wl ↔ ∀ c, c ∈ a.rows ↔ Named wl c := by
  constructor
  · rintro ⟨⟨clusters, hlist, -, hmem⟩, -⟩ c
    obtain rfl : sortStrings a.rows = clusters := Except.ok.inj hlist
    exact mem_sortStrings.symm.trans (hmem c)
  · intro h
    constructor
    · exact ⟨_, list_ok a, sortStrings_ascending a.unique, fun c => mem_sortStrings.trans (h c)⟩
    · rintro ⟨d, hd⟩ c
      have hrows : a.rows ≠ [] := List.ne_nil_of_mem ((h d).mpr hd)
      rw [isAllowed_ok]
      congr 1
      rw [decide_eq_decide]
      simp only [hrows, false_or, h c, and_iff_right_iff_imp]
      exact fun hc => hc.1

/-- **Restarts.** For every sequence of starts on one database file, the
table after the last one follows the last configuration if and only if every
cluster that an earlier configuration named is named by the last one. -/
theorem allowedClusters_follow_iff (earlier : List Startup) (last : Startup) :
    FollowsConfiguration (startups (earlier ++ [last])) last.wl ↔
      ∀ s ∈ earlier, ∀ c, Named s.wl c → Named last.wl c := by
  rw [followsConfiguration_iff_rows]
  simp only [mem_startups, List.mem_append, List.mem_singleton]
  constructor
  · intro h s hs c hc
    exact (h c).mp ⟨s, .inl hs, hc⟩
  · intro h c
    constructor
    · rintro ⟨s, hs | rfl, hc⟩
      · exact h s hs c hc
      · exact hc
    · intro hc
      exact ⟨last, .inr rfl, hc⟩

/-- A cluster taken out of the whitelist is still listed and allowed after
the restart. -/
theorem removedCluster_allowed :
    ∃ earlier last, earlier = Startup.ofConfig (AList.singleton "a" [⟨"m"⟩]) ∧
      last = Startup.ofConfig (AList.singleton "b" [⟨"m"⟩]) ∧
      (startups [earlier, last]).isAllowed {} "a" = .ok true ∧
      ¬ FollowsConfiguration (startups ([earlier] ++ [last])) last.wl := by
  refine ⟨_, _, rfl, rfl, by decide, fun h => ?_⟩
  have hnamed := (followsConfiguration_iff_rows.mp h "a").mp (by decide)
  exact absurd hnamed (by decide)

/-! ## The two gates -/

/-- In every run of the orchestrator on the last configuration, a client that
was accepted with an ID and a cluster has its updates under these accepted
by a store over the table. -/
def GatesAgree (C : Crypto) (earlier : List Startup) (last : Startup) : Prop :=
  ∀ as s conn cr,
    Machine.run (step C (whitelistClusterMasters last.wl)) init as = some s →
    s.authed conn = some cr →
    ∀ (store : Store), store.allowed = some (startups (earlier ++ [last])) →
      ∀ now mi, mi.id = cr.hello.id → mi.cluster = cr.hello.cluster →
        (store.upsertMaster {} now mi).1 = true

theorem upsertMaster_eq_true_iff {store : Store} {a : AllowedClusters}
    (ha : store.allowed = some a) {now : Int} {mi : MasterInfo} (hid : mi.id ≠ "") :
    (store.upsertMaster {} now mi).1 = true ↔
      a.rows = [] ∨ (mi.cluster ≠ "" ∧ mi.cluster ∈ a.rows) := by
  have hverdict : (store.verdict {} mi.cluster).passes =
      decide (a.rows = [] ∨ (mi.cluster ≠ "" ∧ mi.cluster ∈ a.rows)) := by
    rw [Store.verdict, ha, Option.map_some, isAllowed_ok, Verdict.passes]
  rw [Store.upsertMaster, if_neg hid, hverdict]
  by_cases h : a.rows = [] ∨ (mi.cluster ≠ "" ∧ mi.cluster ∈ a.rows)
  · simp [h]
  · simp [h]

/-- The compiled whitelist admits only clusters that the same start wrote to
the table. -/
theorem gatesAgree_of_listed {C : Crypto} {earlier : List Startup} {last : Startup}
    (hlisted : ∃ c i, Listed last.wl c i) : GatesAgree C earlier last := by
  intro as s conn cr hrun hauthed store hstore now mi hid hcluster
  have hok := authed_credentialsOK hrun hauthed
  rw [upsertMaster_eq_true_iff hstore (hid ▸ hok.id_ne_empty), hcluster]
  obtain ⟨set, hset, hi⟩ :=
    admitsMaster_ok hok.admitted (whitelistClusterMasters_pos_iff.mpr hlisted)
  obtain ⟨hc, -, es, hes, -⟩ := whitelistClusterMasters_lookup_iff.mp ⟨set, hset, hi⟩
  have hkey : cr.hello.cluster ∈ last.wl.keys :=
    AList.mem_keys.mp (AList.lookup_isSome.mp (Option.isSome_of_eq_some hes))
  exact .inr ⟨hc, mem_startups.mpr ⟨last, by simp, hc, hkey⟩⟩

theorem gatesAgree_of_noRows {C : Crypto} {earlier : List Startup} {last : Startup}
    (hrows : (startups (earlier ++ [last])).rows = []) : GatesAgree C earlier last := by
  intro as s conn cr hrun hauthed store hstore now mi hid _
  have hok := authed_credentialsOK hrun hauthed
  rw [upsertMaster_eq_true_iff hstore (hid ▸ hok.id_ne_empty)]
  exact .inl hrows

/-- Without a listed master every key holder is accepted, for any cluster. -/
theorem exists_authed {C : Crypto} {wl : MasterWhitelist} (hnone : ¬ ∃ c i, Listed wl c i)
    {pubKey privKey : Bytes} (hlen : pubKey.length = publicKeySize)
    (hverify : ∀ m, C.verify pubKey m (C.sign privKey m) = true) (cluster : String) :
    ∃ as s cr, Machine.run (step C (whitelistClusterMasters wl)) init as = some s ∧
      s.authed 0 = some cr ∧ cr.hello.id = keyID C pubKey ∧ cr.hello.cluster = cluster := by
  have hadmits : admitsMaster (whitelistClusterMasters wl) cluster (keyID C pubKey) = .ok () := by
    rw [admitsMaster, if_neg (mt whitelistClusterMasters_pos_iff.mp hnone)]
  let mi : MasterInfo := { id := keyID C pubKey, cluster := cluster }
  have hid : mi.id = keyID C pubKey := rfl
  obtain ⟨t, hrun, hphase, -⟩ := run_connectActions (s := init) (c := 0) rfl hid hlen
    (List.length_replicate (n := 64) (a := 0)) hadmits (hverify _)
  exact ⟨_, t, _, hrun, ((inv_run hrun).phase 0 _ hphase).2.1, rfl, rfl⟩

/-- Then a cluster that the table does not have is accepted by the one gate
and refused by the other. -/
theorem not_gatesAgree {C : Crypto} {earlier : List Startup} {last : Startup}
    (hnone : ¬ ∃ c i, Listed last.wl c i)
    (hrows : (startups (earlier ++ [last])).rows ≠ [])
    {pubKey privKey : Bytes} (hlen : pubKey.length = publicKeySize)
    (hverify : ∀ m, C.verify pubKey m (C.sign privKey m) = true) :
    ¬ GatesAgree C earlier last := by
  intro h
  obtain ⟨as, s, cr, hrun, hauthed, hid, hcluster⟩ := exists_authed hnone hlen hverify ""
  have hupsert := h as s 0 cr hrun hauthed (newStore 0 (some (startups (earlier ++ [last])))) rfl
    0 { id := keyID C pubKey } hid.symm hcluster.symm
  rw [upsertMaster_eq_true_iff rfl (keyID_ne_empty C pubKey)] at hupsert
  rcases hupsert with hnil | ⟨hc, -⟩
  · exact hrows hnil
  · exact hc rfl

/-- **The two gates.** For every sequence of starts on one database file,
whoever `handleConn` accepts in the last run is accepted by `UpsertMaster`
with the same ID and cluster if and only if the last configuration lists a
master, or no configuration has named a cluster. -/
theorem gates_agree_iff (C : Crypto) (pubKey privKey : Bytes)
    (hlen : pubKey.length = publicKeySize)
    (hverify : ∀ m, C.verify pubKey m (C.sign privKey m) = true)
    (earlier : List Startup) (last : Startup) :
    GatesAgree C earlier last ↔
      (∃ c i, Listed last.wl c i) ∨
        ∀ s ∈ earlier ++ [last], ∀ c ∈ s.wl.keys, c = "" := by
  rw [← startups_rows_eq_nil_iff]
  constructor
  · intro h
    by_contra hneither
    obtain ⟨hnone, hrows⟩ := not_or.mp hneither
    exact not_gatesAgree hnone hrows hlen hverify h
  · rintro (hlisted | hrows)
    · exact gatesAgree_of_listed hlisted
    · exact gatesAgree_of_noRows hrows

/-- A second start whose configuration lists a master. -/
theorem gates_agree_iff_transparent :
    GatesAgree Crypto.transparent [Startup.ofConfig (AList.singleton "a" [⟨"m"⟩])]
      (Startup.ofConfig (AList.singleton "b" [⟨"m"⟩])) :=
  (gates_agree_iff Crypto.transparent demoKey demoKey (List.length_replicate ..)
    (Crypto.transparent_verify demoKey) _ _).mpr
    (.inl ⟨"b", "m", by decide, by decide, [⟨"m"⟩], rfl, ⟨"m"⟩, List.mem_singleton_self _, rfl⟩)

/-- A first start whose only cluster lists no master: a master of another
cluster is accepted by `handleConn`, and its updates are refused. -/
theorem unlistedCluster_refused :
    ∃ last, last = Startup.ofConfig (AList.singleton "nl-amsterdam-1" []) ∧
      (∃ as s cr, Machine.run (step Crypto.transparent (whitelistClusterMasters last.wl)) init as =
          some s ∧
        s.authed 0 = some cr ∧ cr.hello.cluster = "default" ∧
        ((newStore 0 (some (startups [last]))).upsertMaster {} 0
          { id := cr.hello.id, cluster := cr.hello.cluster }).1 = false) ∧
      ¬ GatesAgree Crypto.transparent [] last := by
  have hnone : ¬ ∃ c i, Listed (AList.singleton "nl-amsterdam-1" []) c i := by
    rintro ⟨c, i, -, -, es, hes, e, he, -⟩
    -- the one entry of the list has no masters
    have hentry := List.mem_singleton.mp (AList.mem_lookup_iff.mp hes)
    cases hentry
    exact absurd he List.not_mem_nil
  refine ⟨_, rfl, ?_, ?_⟩
  · obtain ⟨as, s, cr, hrun, hauthed, hid, hcluster⟩ := exists_authed (C := Crypto.transparent)
      hnone (List.length_replicate ..) (Crypto.transparent_verify demoKey) "default"
    refine ⟨as, s, cr, hrun, hauthed, hcluster, ?_⟩
    rw [hid, hcluster, ← Bool.not_eq_true,
      upsertMaster_eq_true_iff rfl (keyID_ne_empty Crypto.transparent demoKey)]
    decide
  · exact not_gatesAgree hnone (by decide) (List.length_replicate ..)
      (Crypto.transparent_verify demoKey)

end Centralisd
