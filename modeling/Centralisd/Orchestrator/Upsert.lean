import Centralisd.Lib.Machine
import Centralisd.Orchestrator.Store

/-!
# Centralisd — concurrent updates of the store

`UpsertMaster` of `src/orchestrator/registry/registry.go`, called from any
number of goroutines. The call reads the clock before it takes the lock, so
its steps are the allowed-clusters check, the clock, and the write. Readings
of the clock never decrease.

* `freshness_iff_inOrder` — the instants stored under an ID never decrease,
  and the last entry is the latest, exactly in the runs in which no call
  writes after a call for the same ID with a later reading.
-/

namespace Centralisd.Orchestrator.Upsert

/-- Calls, by any numbering. -/
abbrev CallID := Nat

/-- Where a call is. -/
inductive Phase where
  /-- at the allowed-clusters check -/
  | checking (mi : MasterInfo)
  /-- at `time.Now` -/
  | stamping (mi : MasterInfo)
  /-- at the locked write -/
  | storing (entry : MasterEntry)
  /-- returned, `true` with the entry it wrote or `false` -/
  | returned (entry : Option MasterEntry)

structure State where
  /-- `none` before the call is made -/
  calls : CallID → Option Phase
  masters : Masters
  /-- the latest reading of the clock, if there was one -/
  clock : Option Int

def init : State where
  calls := fun _ => none
  masters := ∅
  clock := none

inductive Action where
  | call (n : CallID) (mi : MasterInfo)
  /-- `IsAllowed` returns, or is not called -/
  | isAllowed (n : CallID) (verdict : Verdict)
  | now (n : CallID) (time : Int)
  | store (n : CallID)

/-- Move a call to a phase. -/
def State.move (s : State) (n : CallID) (p : Phase) : State :=
  { s with calls := Function.update s.calls n (some p) }

def step (s : State) : Action → Option State
  | .call n mi => match s.calls n with
    | none => some (s.move n (if mi.id = "" then .returned none else .checking mi))
    | some _ => none
  | .isAllowed n verdict => match s.calls n with
    | some (.checking mi) =>
      some (s.move n (if verdict.passes = true then .stamping mi else .returned none))
    | _ => none
  | .now n time => match s.calls n with
    | some (.stamping mi) =>
      if ∀ t ∈ s.clock, t ≤ time then
        some { s.move n (.storing ⟨mi, time⟩) with clock := some time }
      else none
    | _ => none
  | .store n => match s.calls n with
    | some (.storing e) =>
      some { s.move n (.returned (some e)) with masters := s.masters.insert e.id e }
    | _ => none

/-- The call returned `true` and had written the entry. -/
def State.Accepted (s : State) (n : CallID) (e : MasterEntry) : Prop :=
  s.calls n = some (.returned (some e))

/-- No call is under way. -/
def State.Finished (s : State) : Prop := ∀ n p, s.calls n = some p → ∃ r, p = .returned r

/-! ## What a step can do -/

/-- Only the write of a call changes the store or has a call accepted. -/
theorem step_cases {s t : State} {a : Action} (h : step s a = some t) :
    ((∀ n, a ≠ .store n) ∧ t.masters = s.masters ∧ ∀ n e, t.Accepted n e ↔ s.Accepted n e) ∨
    ∃ n e, a = .store n ∧ s.calls n = some (.storing e) ∧
      t.masters = s.masters.insert e.id e ∧
      ∀ n' e', t.Accepted n' e' ↔ s.Accepted n' e' ∨ (n' = n ∧ e' = e) := by
  -- a call that moves between other phases is accepted neither before nor after
  have hmove : ∀ (n : CallID) (p : Phase), (∀ e, s.calls n ≠ some (.returned (some e))) →
      (∀ e, p ≠ .returned (some e)) →
      ∀ n' e', (s.move n p).Accepted n' e' ↔ s.Accepted n' e' := by
    intro n p hbefore hafter n' e'
    by_cases hn : n' = n
    · subst hn
      simp [State.Accepted, State.move, hbefore, hafter]
    · simp [State.Accepted, State.move, hn]
  cases a with
  | call n mi =>
    simp only [step] at h
    split at h
    · next hc =>
      cases h
      refine .inl ⟨nofun, rfl, hmove n _ (by simp [hc]) fun e => ?_⟩
      split <;> simp
    · cases h
  | isAllowed n verdict =>
    simp only [step] at h
    split at h
    · next mi hc =>
      cases h
      refine .inl ⟨nofun, rfl, hmove n _ (by simp [hc]) fun e => ?_⟩
      split <;> simp
    · cases h
  | now n time =>
    simp only [step] at h
    split at h
    · next mi hc =>
      split at h
      · cases h
        exact .inl ⟨nofun, rfl, hmove n (.storing ⟨mi, time⟩) (by simp [hc]) (by simp)⟩
      · cases h
    · cases h
  | store n =>
    simp only [step] at h
    split at h
    · next e hc =>
      cases h
      refine .inr ⟨n, e, rfl, hc, rfl, fun n' e' => ?_⟩
      by_cases hn : n' = n
      · subst hn
        simp [State.Accepted, State.move, hc, eq_comm]
      · simp [State.Accepted, State.move, hn]
    · cases h

/-! ## Freshness -/

/-- No stored instant decreases. -/
def NeverDecreases (s t : State) : Prop :=
  ∀ k e, s.masters.lookup k = some e →
    ∃ e', t.masters.lookup k = some e' ∧ e.lastSeen ≤ e'.lastSeen

/-- The entry under `k` is that of an accepted call for `k`, and no accepted
call for `k` read a later instant. -/
structure LatestStored (s : State) (k : String) : Prop where
  stored : ∀ n e, s.Accepted n e → e.id = k → ∃ e', s.masters.lookup k = some e'
  accepted : ∀ e, s.masters.lookup k = some e → e.id = k ∧ ∃ n, s.Accepted n e
  latest : ∀ e, s.masters.lookup k = some e →
    ∀ n e', s.Accepted n e' → e'.id = k → e'.lastSeen ≤ e.lastSeen

/-- No step of the run decreases an instant, and whenever all calls have
finished the store has the latest entries. -/
structure Freshness (as : List Action) : Prop where
  monotone : Machine.Along step NeverDecreases init as
  final : Machine.Holds step (fun s => s.Finished → ∀ k, LatestStored s k) init as

/-- A write is in order if no accepted call for the same ID read a later
instant. -/
def InOrder (s : State) : Action → Prop
  | .store n => ∀ e, s.calls n = some (.storing e) →
      ∀ n' e', s.Accepted n' e' → e'.id = e.id → e'.lastSeen ≤ e.lastSeen
  | _ => True

theorem latestStored_init (k : String) : LatestStored init k where
  stored := nofun
  accepted := fun _ h => absurd h (by simp [init])
  latest := nofun

/-- A write in order keeps the latest entries. -/
theorem latestStored_step {s t : State} {a : Action} (hs : ∀ k, LatestStored s k)
    (hok : InOrder s a) (h : step s a = some t) (k : String) : LatestStored t k := by
  rcases step_cases h with ⟨-, hmasters, hacc⟩ | ⟨n, e, rfl, hcall, hmasters, hacc⟩
  · obtain ⟨hstored, haccepted, hlatest⟩ := hs k
    constructor <;> simp only [hmasters, hacc] <;> assumption
  · by_cases hk : k = e.id
    · -- the ID that was written
      subst hk
      have hlookup : t.masters.lookup e.id = some e := by rw [hmasters, AList.lookup_insert]
      constructor
      · exact fun _ _ _ _ => ⟨e, hlookup⟩
      · intro e' he'
        obtain rfl := Option.some.inj (hlookup.symm.trans he')
        exact ⟨rfl, n, (hacc n e).mpr (.inr ⟨rfl, rfl⟩)⟩
      · intro e' he' n' e'' hn' hid
        obtain rfl := Option.some.inj (hlookup.symm.trans he')
        rcases (hacc n' e'').mp hn' with hold | ⟨-, rfl⟩
        · exact hok e hcall n' e'' hold hid
        · exact le_refl _
    · -- another one: the accepted calls for it are the same
      have hlookup : t.masters.lookup k = s.masters.lookup k := by
        rw [hmasters, AList.lookup_insert_ne hk]
      have hacc' : ∀ n' e', e'.id = k → (t.Accepted n' e' ↔ s.Accepted n' e') := by
        intro n' e' hid
        rw [hacc]
        refine or_iff_left ?_
        rintro ⟨-, rfl⟩
        exact hk hid.symm
      obtain ⟨hstored, haccepted, hlatest⟩ := hs k
      constructor
      · intro n' e' hn' hid
        rw [hlookup]
        exact hstored n' e' ((hacc' n' e' hid).mp hn') hid
      · intro e' he'
        rw [hlookup] at he'
        obtain ⟨hid, n', hn'⟩ := haccepted e' he'
        exact ⟨hid, n', (hacc' n' e' hid).mpr hn'⟩
      · intro e' he' n' e'' hn' hid
        rw [hlookup] at he'
        exact hlatest e' he' n' e'' ((hacc' n' e'' hid).mp hn') hid

/-- Where the store has the latest entries, a step decreases no instant
exactly when it is in order. -/
theorem neverDecreases_iff {s t : State} {a : Action} (hs : ∀ k, LatestStored s k)
    (h : step s a = some t) : NeverDecreases s t ↔ InOrder s a := by
  rcases step_cases h with ⟨hne, hmasters, -⟩ | ⟨n, e, rfl, hcall, hmasters, -⟩
  · -- the store is left alone
    refine iff_of_true ?_ ?_
    · intro k e he
      exact ⟨e, hmasters ▸ he, le_refl _⟩
    · cases a with
      | store n => exact absurd rfl (hne n)
      | _ => trivial
  · have hlookup : t.masters.lookup e.id = some e := by rw [hmasters, AList.lookup_insert]
    constructor
    · -- the entry that was there before is the latest of the accepted ones
      intro hdec e' he' n' e'' hn' hid
      obtain rfl : e = e' := by simpa [hcall] using he'
      obtain ⟨old, hold⟩ := (hs e.id).stored n' e'' hn' hid
      obtain ⟨new, hnew, hle⟩ := hdec e.id old hold
      obtain rfl := Option.some.inj (hlookup.symm.trans hnew)
      exact ((hs e.id).latest old hold n' e'' hn' hid).trans hle
    · intro hok k old hold
      by_cases hk : k = e.id
      · subst hk
        obtain ⟨hid, n', hn'⟩ := (hs e.id).accepted old hold
        exact ⟨e, hlookup, hok e hcall n' old hn' hid⟩
      · exact ⟨old, by rw [hmasters, AList.lookup_insert_ne hk, hold], le_refl _⟩

/-- **Freshness.** In every run of concurrent `UpsertMaster` calls the stored
instants never decrease, and the entries left when all calls have finished
are those with the greatest readings, if and only if every write of the run
is in order. -/
theorem freshness_iff_inOrder (as : List Action) (s : State)
    (hrun : Machine.run step init as = some s) :
    Freshness as ↔ Machine.Meets step InOrder init as := by
  have hinit : ∀ k, LatestStored init k := latestStored_init
  have hstep : ∀ s a t, (∀ k, LatestStored s k) → InOrder s a → step s a = some t →
      ∀ k, LatestStored t k := fun _ _ _ hs hok h => latestStored_step hs hok h
  have halong : Machine.Along step NeverDecreases init as ↔ Machine.Meets step InOrder init as :=
    Machine.along_iff_meets hstep (fun _ _ _ hs h => neverDecreases_iff hs h) hinit hrun
  constructor
  · exact fun h => halong.mp h.monotone
  · intro h
    refine ⟨halong.mpr h, ?_⟩
    have hlatest := Machine.holds_of_meets hstep hinit h
    exact hlatest.mono fun s hs (_ : s.Finished) => hs

/-- Two calls for one ID: the second reads the clock after the first. -/
def twoCalls : List Action :=
  [.call 0 { id := "m", cluster := "a" }, .call 1 { id := "m", cluster := "a" },
    .isAllowed 0 none, .isAllowed 1 none, .now 0 1, .now 1 2]

theorem freshness_iff_inOrder_twoCalls : Freshness (twoCalls ++ [.store 0, .store 1]) := by
  refine (freshness_iff_inOrder _ _ rfl).mpr ?_
  -- six steps that write nothing
  refine .cons trivial rfl (.cons trivial rfl (.cons trivial rfl (.cons trivial rfl
    (.cons trivial rfl (.cons trivial rfl (.cons ?_ rfl (.cons ?_ rfl trivial)))))))
  · intro e he n' e' hn' _
    rcases n' with _ | _ | n' <;> cases hn'
  · intro e he n' e' hn' _
    cases he
    rcases n' with _ | _ | n' <;> cases hn'
    decide

/-- The second call writes first: the first one reverts the entry. -/
theorem lateWrite_reverts :
    ∃ s, Machine.run step init (twoCalls ++ [.store 1, .store 0]) = some s ∧
      (s.masters.lookup "m").map MasterEntry.lastSeen = some 1 ∧
      ¬ Freshness (twoCalls ++ [.store 1, .store 0]) := by
  refine ⟨_, rfl, by decide, fun h => ?_⟩
  -- the last step, from the entry of the second call to that of the first
  have hmonotone : Machine.Along step NeverDecreases init
      ((twoCalls ++ [.store 1]) ++ [.store 0]) := h.monotone
  obtain ⟨hdec, -⟩ := hmonotone.after rfl _ rfl
  obtain ⟨e', he', hle⟩ := hdec "m" _ rfl
  obtain rfl := Option.some.inj he'
  exact absurd hle (by decide)

end Centralisd.Orchestrator.Upsert
