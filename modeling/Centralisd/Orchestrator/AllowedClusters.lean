import Mathlib.Data.String.Basic
import Mathlib.Data.List.Sort
import Centralisd.Orchestrator.Store

/-!
# Centralisd — the table of allowed clusters

`src/orchestrator/registry/allowed_clusters.go` over the one table of
`src/orchestrator/db`. The unique index on `cluster_id` is the invariant of
the type. `EnsureSeed` runs against a working database; in the queries a
call that fails is an input (`Faults`), because the `Store` reacts to it.

Strings are ordered by code points, which is the order of their UTF-8 bytes
that both SQLite's `ORDER BY` and `sort.Strings` use.
-/

namespace Centralisd.Orchestrator

/-- The strings in ascending order. -/
def sortStrings (xs : List String) : List String := xs.mergeSort fun a b => decide (a ≤ b)

/-- The cluster IDs of the rows, by primary key. -/
structure AllowedClusters where
  rows : List String
  unique : rows.Nodup

/-- The table that `AutoMigrate` makes in a new database file. -/
def AllowedClusters.empty : AllowedClusters := ⟨[], List.nodup_nil⟩

/-- The database calls that fail, with their errors. -/
structure Faults where
  find : Option String := none
  count : Option String := none
  first : Option String := none

/-- `FirstOrCreate` with the condition that `cluster_id` is the given one. -/
def AllowedClusters.firstOrCreate (a : AllowedClusters) (c : String) : AllowedClusters :=
  if h : c ∈ a.rows then a
  else ⟨a.rows ++ [c], List.nodup_append_comm.mp (List.nodup_cons.mpr ⟨h, a.unique⟩)⟩

def AllowedClusters.ensureSeed (a : AllowedClusters) (clusters : List String) : AllowedClusters :=
  clusters.foldl (fun a c => if c = "" then a else a.firstOrCreate c) a

def AllowedClusters.list (a : AllowedClusters) (faults : Faults) : Except String (List String) :=
  match faults.find with
  | some err => .error err
  | none => .ok (sortStrings a.rows)

/-- An error of the count is ignored; one of the lookup is returned. -/
def AllowedClusters.isAllowed (a : AllowedClusters) (faults : Faults) (clusterID : String) :
    Except String Bool :=
  if faults.count = none ∧ a.rows.length = 0 then .ok true
  else if clusterID = "" then .ok false
  else match faults.first with
    | some err => .error err
    | none => .ok (decide (clusterID ∈ a.rows))

/-! ## Sorted strings -/

theorem mem_sortStrings {c : String} {xs : List String} : c ∈ sortStrings xs ↔ c ∈ xs :=
  List.mem_mergeSort

theorem sortStrings_ascending {xs : List String} (h : xs.Nodup) :
    (sortStrings xs).Pairwise (· < ·) := by
  have hle : (sortStrings xs).Pairwise fun a b => decide (a ≤ b) = true := by
    refine List.pairwise_mergeSort (fun a b c hab hbc => ?_) (fun a b => ?_) xs
    · simp only [decide_eq_true_eq] at hab hbc ⊢
      exact le_trans hab hbc
    · simpa using le_total a b
  have hne : (sortStrings xs).Nodup := (List.mergeSort_perm xs _).nodup_iff.mpr h
  refine (hle.and hne).imp fun hab => ?_
  exact lt_of_le_of_ne (of_decide_eq_true hab.1) hab.2

/-! ## What the operations do to the rows -/

theorem mem_firstOrCreate {a : AllowedClusters} {c d : String} :
    d ∈ (a.firstOrCreate c).rows ↔ d ∈ a.rows ∨ d = c := by
  unfold AllowedClusters.firstOrCreate
  split
  · next hmem =>
    constructor
    · exact .inl
    · rintro (h | rfl)
      · exact h
      · exact hmem
  · exact List.mem_append.trans (or_congr_right List.mem_singleton)

/-- Seeding adds the non-empty IDs, whatever their order. -/
theorem mem_ensureSeed {a : AllowedClusters} {clusters : List String} {d : String} :
    d ∈ (a.ensureSeed clusters).rows ↔ d ∈ a.rows ∨ (d ≠ "" ∧ d ∈ clusters) := by
  induction clusters generalizing a with
  | nil => simp [AllowedClusters.ensureSeed]
  | cons c clusters ih =>
    change d ∈ ((if c = "" then a else a.firstOrCreate c).ensureSeed clusters).rows ↔ _
    rw [ih, List.mem_cons]
    by_cases hc : c = ""
    · -- a blank ID is skipped
      rw [if_pos hc, hc]
      constructor
      · rintro (h | ⟨hd, h⟩)
        · exact .inl h
        · exact .inr ⟨hd, .inr h⟩
      · rintro (h | ⟨hd, rfl | h⟩)
        · exact .inl h
        · exact absurd rfl hd
        · exact .inr ⟨hd, h⟩
    · rw [if_neg hc, mem_firstOrCreate]
      constructor
      · rintro ((h | rfl) | ⟨hd, h⟩)
        · exact .inl h
        · exact .inr ⟨hc, .inl rfl⟩
        · exact .inr ⟨hd, .inr h⟩
      · rintro (h | ⟨hd, rfl | h⟩)
        · exact .inl (.inl h)
        · exact .inl (.inr rfl)
        · exact .inr ⟨hd, h⟩

theorem list_ok (a : AllowedClusters) : a.list {} = .ok (sortStrings a.rows) := rfl

/-- Without errors: everything is allowed by the empty table, and by another
one exactly its rows. -/
theorem isAllowed_ok (a : AllowedClusters) (c : String) :
    a.isAllowed {} c = .ok (decide (a.rows = [] ∨ (c ≠ "" ∧ c ∈ a.rows))) := by
  unfold AllowedClusters.isAllowed
  by_cases hrows : a.rows = []
  · simp [hrows]
  · by_cases hc : c = ""
    · simp [hrows, hc]
    · simp [hrows, hc]

/-- Whatever fails, an allowed cluster is a row unless there are none. -/
theorem mem_rows_of_isAllowed {a : AllowedClusters} {faults : Faults} {c : String}
    (h : a.isAllowed faults c = .ok true) : a.rows = [] ∨ c ∈ a.rows := by
  unfold AllowedClusters.isAllowed at h
  split at h
  · next hempty => exact .inl (List.length_eq_zero_iff.mp hempty.2)
  · split at h
    · cases h
    · split at h
      · cases h
      · exact .inr (of_decide_eq_true (Except.ok.inj h))

end Centralisd.Orchestrator
