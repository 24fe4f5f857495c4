import Centralisd.Master.Server
import Centralisd.Orchestrator.Integrity

/-!
# Centralisd — the admission lists of the configuration

`src/main.go` compiles `master.allowednodes` and
`orchestrator.masterwhitelist` (`src/core/config/config.go`) into the sets
that `handleConnection` and `handleConn` consult. Both servers read an empty
set as "no restriction", and the compilation drops blank entries, so the
two together are fail-closed only while something is left to compile.

* `admits_iff_listed_iff` — each server admits exactly what its
  configuration lists if and only if the configuration has an entry that is
  not blank.
-/

namespace Centralisd

/-! ## `config.go` -/

/-- `OrchestratorMasterWhitelistEntry`. -/
structure OrchestratorMasterWhitelistEntry where
  id : String
  deriving DecidableEq, Repr

/-- The `masterwhitelist` map: cluster ID to the masters listed for it. -/
abbrev MasterWhitelist := AList fun _ : String => List OrchestratorMasterWhitelistEntry

/-! ## `main.go` -/

/-- The loops that collect the non-empty strings into a set. -/
def addNonEmpty (out : Finset String) (v : String) : Finset String :=
  if v = "" then out else insert v out

/-- `sliceToSet`; the nil map is the empty set. -/
def sliceToSet (xs : List String) : Finset String :=
  if xs.length = 0 then ∅ else xs.foldl addNonEmpty ∅

/-- One round of the loop of `whitelistClusterMasters`. -/
def addCluster (out : Orchestrator.Whitelist)
    (e : Σ _ : String, List OrchestratorMasterWhitelistEntry) : Orchestrator.Whitelist :=
  if e.1 = "" then out
  else
    let set := (e.2.map OrchestratorMasterWhitelistEntry.id).foldl addNonEmpty ∅
    if set.card = 0 then out else out.insert e.1 set

/-- `whitelistClusterMasters`, in the order of the map's entries; the nil
map is the empty one. -/
def whitelistClusterMasters (wl : MasterWhitelist) : Orchestrator.Whitelist :=
  if wl.entries.length = 0 then ∅ else wl.entries.foldl addCluster ∅

/-! ## What the compiled sets contain -/

theorem mem_foldl_addNonEmpty {v : String} {xs : List String} {out : Finset String} :
    v ∈ xs.foldl addNonEmpty out ↔ v ∈ out ∨ (v ≠ "" ∧ v ∈ xs) := by
  induction xs generalizing out with
  | nil => simp
  | cons x xs ih =>
    rw [List.foldl_cons, ih, addNonEmpty]
    by_cases hx : x = ""
    · -- a blank element is skipped
      rw [if_pos hx, List.mem_cons, hx]
      constructor
      · rintro (h | ⟨hv, h⟩)
        · exact .inl h
        · exact .inr ⟨hv, .inr h⟩
      · rintro (h | ⟨hv, rfl | h⟩)
        · exact .inl h
        · exact absurd rfl hv
        · exact .inr ⟨hv, h⟩
    · -- any other is inserted
      rw [if_neg hx, Finset.mem_insert, List.mem_cons]
      constructor
      · rintro ((rfl | h) | ⟨hv, h⟩)
        · exact .inr ⟨hx, .inl rfl⟩
        · exact .inl h
        · exact .inr ⟨hv, .inr h⟩
      · rintro (h | ⟨hv, rfl | h⟩)
        · exact .inl (.inr h)
        · exact .inl (.inl rfl)
        · exact .inr ⟨hv, h⟩

theorem mem_sliceToSet {v : String} {xs : List String} :
    v ∈ sliceToSet xs ↔ v ≠ "" ∧ v ∈ xs := by
  unfold sliceToSet
  split
  · next h => simp [List.length_eq_zero_iff.mp h]
  · rw [mem_foldl_addNonEmpty]
    simp

/-- The set compiled for one cluster's list of masters. -/
theorem mem_clusterSet {i : String} {es : List OrchestratorMasterWhitelistEntry} :
    i ∈ (es.map OrchestratorMasterWhitelistEntry.id).foldl addNonEmpty ∅ ↔
      i ≠ "" ∧ ∃ e ∈ es, e.id = i := by
  rw [mem_foldl_addNonEmpty, List.mem_map]
  simp

theorem lookup_addCluster_ne {out : Orchestrator.Whitelist} {c : String}
    {e : Σ _ : String, List OrchestratorMasterWhitelistEntry} (h : c ≠ e.1) :
    (addCluster out e).lookup c = out.lookup c := by
  unfold addCluster
  split
  · rfl
  · dsimp only
    split
    · rfl
    · exact AList.lookup_insert_ne h

theorem lookup_foldl_addCluster_of_notMem
    {l : List (Σ _ : String, List OrchestratorMasterWhitelistEntry)}
    {out : Orchestrator.Whitelist} {c : String} (h : c ∉ l.keys) :
    (l.foldl addCluster out).lookup c = out.lookup c := by
  induction l generalizing out with
  | nil => rfl
  | cons e l ih =>
    rw [List.keys_cons, List.mem_cons, not_or] at h
    rw [List.foldl_cons, ih h.2, lookup_addCluster_ne h.1]

/-- What a round writes under its own cluster: the set of the non-empty IDs,
unless the cluster or that set is empty. -/
theorem lookup_addCluster_self {out : Orchestrator.Whitelist} {c : String}
    {es : List OrchestratorMasterWhitelistEntry} {set : Finset String}
    (hout : out.lookup c = none) :
    (addCluster out ⟨c, es⟩).lookup c = some set ↔ c ≠ "" ∧
      (es.map OrchestratorMasterWhitelistEntry.id).foldl addNonEmpty ∅ = set ∧ set ≠ ∅ := by
  unfold addCluster
  by_cases hc : c = ""
  · -- `clusterID == ""`: the round is skipped
    rw [if_pos hc, hout]
    simp [hc]
  · dsimp only
    rw [if_neg hc]
    split
    · next hcard =>
      -- no ID is left: the cluster is dropped
      rw [Finset.card_eq_zero] at hcard
      rw [hout, hcard]
      constructor
      · intro h
        cases h
      · rintro ⟨-, rfl, hne⟩
        exact absurd rfl hne
    · next hcard =>
      rw [AList.lookup_insert, Option.some.injEq]
      have hne := mt Finset.card_eq_zero.mpr hcard
      constructor
      · rintro rfl
        exact ⟨hc, rfl, hne⟩
      · exact fun h => h.2.1

/-- The loop leaves at each cluster of the configuration what its own round
wrote there. -/
theorem lookup_foldl_addCluster_of_mem
    {l : List (Σ _ : String, List OrchestratorMasterWhitelistEntry)} (hl : l.NodupKeys)
    {out : Orchestrator.Whitelist} {c : String} {es : List OrchestratorMasterWhitelistEntry}
    {set : Finset String} (h : ⟨c, es⟩ ∈ l) (hout : out.lookup c = none) :
    (l.foldl addCluster out).lookup c = some set ↔ c ≠ "" ∧
      (es.map OrchestratorMasterWhitelistEntry.id).foldl addNonEmpty ∅ = set ∧ set ≠ ∅ := by
  induction l generalizing out with
  | nil => exact absurd h List.not_mem_nil
  | cons e l ih =>
    rw [List.nodupKeys_cons] at hl
    rw [List.foldl_cons]
    rcases List.mem_cons.mp h with rfl | h
    · -- its own round: a map has no other entry for the cluster
      rw [lookup_foldl_addCluster_of_notMem hl.1, lookup_addCluster_self hout]
    · -- another cluster's round writes elsewhere
      have hne : c ≠ e.1 := by
        intro hce
        have hkey : c ∈ l.keys := List.mem_keys_of_mem h
        exact hl.1 (hce ▸ hkey)
      exact ih hl.2 h ((lookup_addCluster_ne hne).trans hout)

/-- The compiled entry of a cluster. -/
theorem whitelistClusterMasters_lookup {wl : MasterWhitelist} {c : String} {set : Finset String} :
    (whitelistClusterMasters wl).lookup c = some set ↔ c ≠ "" ∧ set ≠ ∅ ∧
      ∃ es, wl.lookup c = some es ∧
        (es.map OrchestratorMasterWhitelistEntry.id).foldl addNonEmpty ∅ = set := by
  -- the early return for an empty map agrees with the loop
  have hfold : (whitelistClusterMasters wl).lookup c =
      (wl.entries.foldl addCluster ∅).lookup c := by
    unfold whitelistClusterMasters
    split
    · next h => rw [List.length_eq_zero_iff.mp h, List.foldl_nil]
    · rfl
  rw [hfold]
  cases hes : wl.lookup c with
  | none =>
    rw [lookup_foldl_addCluster_of_notMem (AList.lookup_eq_none.mp hes), AList.lookup_empty]
    simp
  | some es =>
    rw [lookup_foldl_addCluster_of_mem wl.nodupKeys (AList.mem_lookup_iff.mp hes)
      (AList.lookup_empty c)]
    constructor
    · rintro ⟨hc, hset, hne⟩
      exact ⟨hc, hne, es, rfl, hset⟩
    · rintro ⟨hc, hne, es', hes', hset⟩
      obtain rfl := Option.some.inj hes'
      exact ⟨hc, hset, hne⟩

/-- The configuration lists the ID, non-empty, under the non-empty
cluster. -/
def Listed (wl : MasterWhitelist) (c i : String) : Prop :=
  c ≠ "" ∧ i ≠ "" ∧ ∃ es, wl.lookup c = some es ∧ ∃ e ∈ es, e.id = i

theorem whitelistClusterMasters_lookup_iff {wl : MasterWhitelist} {c i : String} :
    (∃ set, (whitelistClusterMasters wl).lookup c = some set ∧ i ∈ set) ↔ Listed wl c i := by
  constructor
  · rintro ⟨set, hset, hmem⟩
    obtain ⟨hc, -, es, hes, rfl⟩ := whitelistClusterMasters_lookup.mp hset
    obtain ⟨hi, he⟩ := mem_clusterSet.mp hmem
    exact ⟨hc, hi, es, hes, he⟩
  · rintro ⟨hc, hi, es, hes, he⟩
    have hmem := mem_clusterSet.mpr ⟨hi, he⟩
    have hne := Finset.ne_empty_of_mem hmem
    exact ⟨_, whitelistClusterMasters_lookup.mpr ⟨hc, hne, es, hes, rfl⟩, hmem⟩

/-! ## What the servers admit -/

theorem Orchestrator.admitsMaster_iff {masterWhitelist : Orchestrator.Whitelist}
    (hne : 0 < masterWhitelist.entries.length) {c i : String} :
    Orchestrator.admitsMaster masterWhitelist c i = .ok () ↔
      ∃ set, masterWhitelist.lookup c = some set ∧ i ∈ set := by
  refine ⟨fun h => Orchestrator.admitsMaster_ok h hne, ?_⟩
  rintro ⟨set, hset, hi⟩
  rw [Orchestrator.admitsMaster, if_pos hne, hset]
  exact if_pos hi

theorem entries_pos_iff {α : Type*} [DecidableEq α] {β : α → Type*} {m : AList β} :
    0 < m.entries.length ↔ ∃ c b, m.lookup c = some b := by
  constructor
  · intro h
    obtain ⟨⟨c, b⟩, he⟩ := List.exists_mem_of_length_pos h
    exact ⟨c, b, AList.mem_lookup_iff.mpr he⟩
  · rintro ⟨c, b, h⟩
    exact List.length_pos_of_mem (AList.mem_lookup_iff.mp h)

/-- The compiled whitelist restricts anything exactly when the configuration
lists someone. -/
theorem whitelistClusterMasters_pos_iff {wl : MasterWhitelist} :
    0 < (whitelistClusterMasters wl).entries.length ↔ ∃ c i, Listed wl c i := by
  rw [entries_pos_iff]
  constructor
  · rintro ⟨c, set, h⟩
    -- a cluster is compiled only with at least one master
    obtain ⟨-, hne, -⟩ := whitelistClusterMasters_lookup.mp h
    obtain ⟨i, hi⟩ := Finset.nonempty_iff_ne_empty.mpr hne
    exact ⟨c, i, whitelistClusterMasters_lookup_iff.mp ⟨set, h, hi⟩⟩
  · rintro ⟨c, i, h⟩
    obtain ⟨set, hset, -⟩ := whitelistClusterMasters_lookup_iff.mpr h
    exact ⟨c, set, hset⟩

theorem sliceToSet_pos_iff {xs : List String} :
    0 < (sliceToSet xs).card ↔ ∃ v ∈ xs, v ≠ "" := by
  rw [Finset.card_pos]
  constructor
  · rintro ⟨v, hv⟩
    obtain ⟨hne, hmem⟩ := mem_sliceToSet.mp hv
    exact ⟨v, hmem, hne⟩
  · rintro ⟨v, hmem, hne⟩
    exact ⟨v, mem_sliceToSet.mpr ⟨hne, hmem⟩⟩

/-- The whitelist stage of `handleConn` admits exactly the listed pairs. -/
def MastersFailClosed (wl : MasterWhitelist) : Prop :=
  ∀ c i, Orchestrator.admitsMaster (whitelistClusterMasters wl) c i = .ok () ↔ Listed wl c i

/-- The allow-list stage of `handleConnection` admits, of the IDs that pass
the ID check, exactly the listed ones. -/
def NodesFailClosed (C : Crypto) (allowednodes : List String) : Prop :=
  ∀ i pubKey, verifyIDForPublicKey C i pubKey = true →
    (Master.admitsNode (sliceToSet allowednodes) i = true ↔ i ∈ allowednodes)

theorem mastersFailClosed_iff (wl : MasterWhitelist) :
    MastersFailClosed wl ↔ ∃ c i, Listed wl c i := by
  constructor
  · intro h
    by_contra hnone
    -- nothing was compiled, so everyone is admitted
    have hempty : ¬ 0 < (whitelistClusterMasters wl).entries.length := by
      rwa [whitelistClusterMasters_pos_iff]
    have hadmit : Orchestrator.admitsMaster (whitelistClusterMasters wl) "" "" = .ok () := by
      rw [Orchestrator.admitsMaster, if_neg hempty]
    exact hnone ⟨_, _, (h "" "").mp hadmit⟩
  · intro hsome c i
    rw [Orchestrator.admitsMaster_iff (whitelistClusterMasters_pos_iff.mpr hsome),
      whitelistClusterMasters_lookup_iff]

theorem nodesFailClosed_iff (C : Crypto) (allowednodes : List String) :
    NodesFailClosed C allowednodes ↔ ∃ v ∈ allowednodes, v ≠ "" := by
  constructor
  · intro h
    by_contra hnone
    -- the empty set admits every ID that passes the ID check, the demo key's too
    have hempty : ¬ 0 < (sliceToSet allowednodes).card := by
      rwa [sliceToSet_pos_iff]
    have hid : verifyIDForPublicKey C (keyID C demoKey) demoKey = true :=
      (verifyIDForPublicKey_iff C _ _).mpr (trimSpace_keyID C demoKey)
    have hadmit : Master.admitsNode (sliceToSet allowednodes) (keyID C demoKey) = true := by
      rw [Master.admitsNode, if_neg hempty]
    exact hnone ⟨_, (h _ _ hid).mp hadmit, keyID_ne_empty C demoKey⟩
  · intro hsome i pubKey hid
    -- an ID that passes the ID check is not blank, so it is not dropped
    have hi : i ≠ "" := id_ne_empty_of_verify ((verifyIDForPublicKey_iff C _ _).mp hid)
    rw [Master.admitsNode_iff, mem_sliceToSet]
    have hpos := sliceToSet_pos_iff.mpr hsome
    constructor
    · exact fun h => (h hpos).2
    · exact fun h _ => ⟨hi, h⟩

/-- **When the admission lists fail closed.** For every `masterwhitelist`,
`handleConn` admits exactly the listed pairs of cluster and ID if and only
if some non-empty cluster lists a non-empty ID; for every `allowednodes`,
`handleConnection` admits exactly the listed IDs if and only if some element
is non-empty. -/
theorem admits_iff_listed_iff (C : Crypto) (wl : MasterWhitelist) (allowednodes : List String) :
    (MastersFailClosed wl ↔ ∃ c i, Listed wl c i) ∧
    (NodesFailClosed C allowednodes ↔ ∃ v ∈ allowednodes, v ≠ "") :=
  ⟨mastersFailClosed_iff wl, nodesFailClosed_iff C allowednodes⟩

/-- A whitelist that names a cluster and lists no master for it, and an
allow-list of one blank element, admit everyone. -/
theorem blank_lists_admit_everyone :
    ¬ MastersFailClosed (AList.singleton "nl-amsterdam-1" []) ∧
    ¬ NodesFailClosed Crypto.transparent [""] := by
  constructor
  · -- the cluster compiles to nothing, and the empty map admits any pair
    intro h
    have hadmit : Orchestrator.admitsMaster
        (whitelistClusterMasters (AList.singleton "nl-amsterdam-1" [])) "nl-amsterdam-1" "any" =
        .ok () := by decide
    obtain ⟨-, -, es, hes, e, he, -⟩ := (h _ _).mp hadmit
    have hnil : (AList.singleton "nl-amsterdam-1" [] : MasterWhitelist).lookup "nl-amsterdam-1" =
        some [] := by decide
    rw [hnil, Option.some.injEq] at hes
    exact absurd (hes ▸ he) List.not_mem_nil
  · -- the only element is blank
    intro h
    obtain ⟨v, hv, hne⟩ := (nodesFailClosed_iff Crypto.transparent [""]).mp h
    exact hne (List.mem_singleton.mp hv)

end Centralisd
