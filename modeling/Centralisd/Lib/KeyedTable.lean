import Mathlib.Data.List.AList

/-!
# A table of owners, keyed by name

Owners register under a key and later remove that key again. The table
keeps one owner a key, the latest; `history` records every registration,
latest first, so that "the latest owner of a key" is a fact about the past
and not about the table.

Owners come and go: `held n` is the key an owner has registered and not yet
removed, `gone n` says it has removed it. `Tracks` relates the table to
them and survives every step. `Exact` says the table is right: it maps a
key to an owner exactly when that owner is the key's latest and not gone.
Registering a fresh owner keeps it (`Exact.register`); removing a key on
behalf of an owner keeps it exactly when no *other* owner sits under the
key (`exact_unregister_iff`).
-/

namespace KeyedTable

variable {κ ν : Type*} [DecidableEq κ]

/-- The table and the registrations made so far, latest first. -/
structure State (κ ν : Type*) where
  table : AList fun _ : κ => ν
  history : List (κ × ν)

def empty : State κ ν := ⟨∅, []⟩

def State.register (s : State κ ν) (k : κ) (n : ν) : State κ ν :=
  ⟨s.table.insert k n, (k, n) :: s.history⟩

def State.unregister (s : State κ ν) (k : κ) : State κ ν :=
  { s with table := s.table.erase k }

/-- The owner under a key. -/
def State.owner (s : State κ ν) (k : κ) : Option ν := s.table.lookup k

/-- The owner that registered last under a key. -/
def State.latest (s : State κ ν) (k : κ) : Option ν :=
  (s.history.find? fun e => decide (e.1 = k)).map Prod.snd

/-- Each owner registers at most once. -/
def State.Once (s : State κ ν) : Prop := (s.history.map Prod.snd).Nodup

/-- How the table relates to owners that hold a key and owners that are
gone. -/
structure Tracks (held : ν → Option κ) (gone : ν → Prop) (s : State κ ν) : Prop where
  apart : ∀ n k, held n = some k → ¬ gone n
  registered : ∀ k n, (k, n) ∈ s.history → gone n ∨ held n = some k
  recorded : ∀ n k, held n = some k → (k, n) ∈ s.history
  once : s.Once
  owner : ∀ k n, s.owner k = some n → held n = some k

/-- The table maps a key to an owner exactly when the owner is the key's
latest and not gone. -/
def Exact (gone : ν → Prop) (s : State κ ν) : Prop :=
  ∀ k n, s.owner k = some n ↔ s.latest k = some n ∧ ¬ gone n

-- ---------------------------------------------------------------------------
-- The operations on one key and on the others
-- ---------------------------------------------------------------------------

@[simp] theorem owner_empty (k : κ) : (empty : State κ ν).owner k = none := rfl

@[simp] theorem latest_empty (k : κ) : (empty : State κ ν).latest k = none := rfl

@[simp] theorem owner_register (s : State κ ν) (k : κ) (n : ν) :
    (s.register k n).owner k = some n := AList.lookup_insert _

theorem owner_register_ne (s : State κ ν) {k k' : κ} (n : ν) (h : k' ≠ k) :
    (s.register k n).owner k' = s.owner k' := AList.lookup_insert_ne h

@[simp] theorem owner_unregister (s : State κ ν) (k : κ) :
    (s.unregister k).owner k = none := AList.lookup_erase _ _

theorem owner_unregister_ne (s : State κ ν) {k k' : κ} (h : k' ≠ k) :
    (s.unregister k).owner k' = s.owner k' := AList.lookup_erase_ne h

@[simp] theorem latest_register (s : State κ ν) (k : κ) (n : ν) :
    (s.register k n).latest k = some n := by
  simp [State.latest, State.register]

theorem latest_register_ne (s : State κ ν) {k k' : κ} (n : ν) (h : k' ≠ k) :
    (s.register k n).latest k' = s.latest k' := by
  simp [State.latest, State.register, h.symm]

@[simp] theorem latest_unregister (s : State κ ν) (k k' : κ) :
    (s.unregister k).latest k' = s.latest k' := rfl

@[simp] theorem history_unregister (s : State κ ν) (k : κ) :
    (s.unregister k).history = s.history := rfl

@[simp] theorem history_register (s : State κ ν) (k : κ) (n : ν) :
    (s.register k n).history = (k, n) :: s.history := rfl

/-- A latest owner has registered under its key. -/
theorem mem_history_of_latest {s : State κ ν} {k : κ} {n : ν} (h : s.latest k = some n) :
    (k, n) ∈ s.history := by
  unfold State.latest at h
  rw [Option.map_eq_some_iff] at h
  obtain ⟨e, he, rfl⟩ := h
  have hk : e.1 = k := by simpa using List.find?_some he
  exact hk ▸ List.mem_of_find?_eq_some he

omit [DecidableEq κ] in
/-- An owner that registered once is the owner of one key only. -/
theorem State.Once.key_unique {s : State κ ν} (h : s.Once) {k k' : κ} {n : ν}
    (hk : (k, n) ∈ s.history) (hk' : (k', n) ∈ s.history) : k = k' := by
  have := List.inj_on_of_nodup_map h hk hk' rfl
  exact congrArg Prod.fst this

theorem State.Once.register {s : State κ ν} (h : s.Once) {n : ν}
    (hn : ∀ k, (k, n) ∉ s.history) (k : κ) : (s.register k n).Once := by
  show ((k, n).2 :: s.history.map Prod.snd).Nodup
  refine List.nodup_cons.mpr ⟨?_, h⟩
  intro hmem
  obtain ⟨⟨k', n'⟩, he, rfl⟩ := List.mem_map.mp hmem
  exact hn k' he

-- ---------------------------------------------------------------------------
-- Owners that come and go
-- ---------------------------------------------------------------------------

section Tracks

variable {held held' : ν → Option κ} {gone gone' : ν → Prop} {s : State κ ν}

theorem tracks_empty (hheld : ∀ n, held n = none) : Tracks held gone (empty : State κ ν) where
  apart := fun n k h => absurd (h.symm.trans (hheld n)) (by simp)
  registered := fun _ _ h => absurd h (List.not_mem_nil)
  recorded := fun n k h => absurd (h.symm.trans (hheld n)) (by simp)
  once := List.nodup_nil
  owner := fun _ _ h => absurd h (by simp)

/-- A step that leaves the table and the held keys alone. -/
theorem Tracks.keep (h : Tracks held gone s) (hheld : ∀ n, held' n = held n)
    (hgone : ∀ n, gone n → gone' n) (hapart : ∀ n k, held' n = some k → ¬ gone' n) :
    Tracks held' gone' s where
  apart := hapart
  registered := by
    intro k n hk
    rcases h.registered k n hk with hg | hh
    · exact .inl (hgone n hg)
    · exact .inr ((hheld n).trans hh)
  recorded := fun n k hk => h.recorded n k ((hheld n).symm.trans hk)
  once := h.once
  owner := fun k n hk => (hheld n).trans (h.owner k n hk)

/-- An owner that neither holds a key nor is gone has not registered. -/
theorem Tracks.fresh (h : Tracks held gone s) {n : ν} (hheld : held n = none) (hgone : ¬ gone n) :
    ∀ k, (k, n) ∉ s.history := by
  intro k hk
  rcases h.registered k n hk with hg | hh
  · exact hgone hg
  · exact absurd (hheld.symm.trans hh) (by simp)

theorem Tracks.register (h : Tracks held gone s) {k : κ} {n : ν} (hnone : held n = none)
    (hlive : ¬ gone n) (hn : held' n = some k) (hheld : ∀ m, m ≠ n → held' m = held m)
    (hgone : ∀ m, m ≠ n → gone m → gone' m) (hapart : ∀ m k, held' m = some k → ¬ gone' m) :
    Tracks held' gone' (s.register k n) where
  apart := hapart
  registered := by
    intro k' m hk
    rcases List.mem_cons.mp hk with heq | hk
    · obtain ⟨rfl, rfl⟩ := Prod.mk.inj heq
      exact .inr hn
    · -- `n` has not registered before, so this is someone else's entry
      have hmn : m ≠ n := fun e => h.fresh hnone hlive k' (e ▸ hk)
      rcases h.registered k' m hk with hg | hh
      · exact .inl (hgone m hmn hg)
      · exact .inr ((hheld m hmn).trans hh)
  recorded := by
    intro m k' hk
    by_cases hmn : m = n
    · subst hmn
      rw [hn, Option.some.injEq] at hk
      exact hk ▸ List.mem_cons_self
    · exact List.mem_cons_of_mem _ (h.recorded m k' ((hheld m hmn).symm.trans hk))
  once := h.once.register (h.fresh hnone hlive) k
  owner := by
    intro k' m hk
    by_cases hkk : k' = k
    · subst hkk
      rw [owner_register, Option.some.injEq] at hk
      exact hk ▸ hn
    · rw [owner_register_ne _ _ hkk] at hk
      have hh := h.owner k' m hk
      have hmn : m ≠ n := fun e => absurd (hnone.symm.trans (e ▸ hh)) (by simp)
      exact (hheld m hmn).trans hh

theorem Tracks.unregister (h : Tracks held gone s) {k : κ} {n : ν} (hk : held n = some k)
    (hn : gone' n) (hnone : held' n = none) (hheld : ∀ m, m ≠ n → held' m = held m)
    (hgone : ∀ m, m ≠ n → gone m → gone' m) (hapart : ∀ m k, held' m = some k → ¬ gone' m) :
    Tracks held' gone' (s.unregister k) where
  apart := hapart
  registered := by
    intro k' m hm
    by_cases hmn : m = n
    · exact .inl (hmn ▸ hn)
    · rcases h.registered k' m hm with hg | hh
      · exact .inl (hgone m hmn hg)
      · exact .inr ((hheld m hmn).trans hh)
  recorded := by
    intro m k' hm
    have hmn : m ≠ n := fun e => absurd (hnone.symm.trans (e ▸ hm)) (by simp)
    exact h.recorded m k' ((hheld m hmn).symm.trans hm)
  once := h.once
  owner := by
    intro k' m hm
    by_cases hkk : k' = k
    · subst hkk
      exact absurd hm (by simp)
    · rw [owner_unregister_ne _ hkk] at hm
      have hh := h.owner k' m hm
      -- the leaving owner's only key is the one removed
      have hmn : m ≠ n := by
        rintro rfl
        exact hkk (Option.some.inj (hh.symm.trans hk))
      exact (hheld m hmn).trans hh

-- ---------------------------------------------------------------------------
-- What keeps the table exact
-- ---------------------------------------------------------------------------

theorem exact_empty (gone : ν → Prop) : Exact gone (empty : State κ ν) := by
  intro k n
  simp

theorem Exact.keep (h : Exact gone s) (ht : Tracks held gone s) (hheld : ∀ n, held' n = held n)
    (hgone : ∀ n, gone n → gone' n) (hapart : ∀ n k, held' n = some k → ¬ gone' n) :
    Exact gone' s := by
  -- of those that registered, nobody has gone in this step
  have hsame : ∀ k n, (k, n) ∈ s.history → (gone n ↔ gone' n) := by
    intro k n hk
    refine ⟨hgone n, fun hg => ?_⟩
    rcases ht.registered k n hk with hold | hh
    · exact hold
    · exact absurd hg (hapart n k ((hheld n).trans hh))
  intro k n
  rw [h k n]
  constructor
  · rintro ⟨hl, hn⟩
    exact ⟨hl, fun hg => hn ((hsame k n (mem_history_of_latest hl)).mpr hg)⟩
  · rintro ⟨hl, hn⟩
    exact ⟨hl, fun hg => hn ((hsame k n (mem_history_of_latest hl)).mp hg)⟩

/-- Registering a fresh owner keeps the table exact. -/
theorem Exact.register (h : Exact gone s) (ht : Tracks held gone s) {k : κ} {n : ν}
    (hnone : held n = none) (hlive : ¬ gone n) (hgone : ∀ m, m ≠ n → (gone m ↔ gone' m))
    (hn : ¬ gone' n) : Exact gone' (s.register k n) := by
  intro k' m
  by_cases hk : k' = k
  · subst hk
    rw [owner_register, latest_register]
    constructor
    · intro hm
      exact ⟨hm, Option.some.inj hm ▸ hn⟩
    · exact fun hm => hm.1
  · rw [owner_register_ne _ _ hk, latest_register_ne _ _ hk, h k' m]
    refine and_congr_right fun hl => not_congr (hgone m ?_)
    exact fun e => ht.fresh hnone hlive k' (e ▸ mem_history_of_latest hl)

/-- **Removal by key.** When an owner `n` of key `k` goes and the key is
removed, the table stays exact if and only if no other owner sat under the
key. -/
theorem exact_unregister_iff (h : Exact gone s) (ht : Tracks held gone s) {k : κ} {n : ν}
    (hk : held n = some k) (hgone : ∀ m, m ≠ n → (gone m ↔ gone' m)) (hn : gone' n) :
    Exact gone' (s.unregister k) ↔ ∀ m, s.owner k = some m → m = n := by
  constructor
  · intro hafter m hm
    by_contra hne
    -- `m` is the latest and not gone, but its key is
    obtain ⟨hl, hlm⟩ := (h k m).mp hm
    have := (hafter k m).mpr ⟨hl, fun hg => hlm ((hgone m hne).mpr hg)⟩
    rw [owner_unregister] at this
    exact absurd this (by simp)
  · intro hown k' m
    by_cases hkk : k' = k
    · subst hkk
      rw [owner_unregister, latest_unregister]
      constructor
      · exact fun hm => absurd hm (by simp)
      · rintro ⟨hl, hm⟩
        have hne : m ≠ n := fun e => hm (e ▸ hn)
        exact absurd (hown m ((h k' m).mpr ⟨hl, fun hg => hm ((hgone m hne).mp hg)⟩)) hne
    · rw [owner_unregister_ne _ hkk, latest_unregister, h k' m]
      refine and_congr_right fun hl => not_congr (hgone m ?_)
      -- the one that goes registered under `k` and under no other key
      rintro rfl
      exact hkk (ht.once.key_unique (mem_history_of_latest hl) (ht.recorded m k hk))

end Tracks

end KeyedTable
