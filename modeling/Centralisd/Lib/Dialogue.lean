import Mathlib.Data.List.Perm.Basic
import Centralisd.Lib.Machine

/-!
# Two parties over two streams

A dialogue is two sequential programs that talk over a stream in each
direction. A party at a point of its program either goes on by itself, with
messages to write, or waits for the next message of the other side; which of
the two moves first when both can is the schedule.

Steps of the two parties commute (`step_diamond`), so a dialogue that ends on
one schedule ends on every schedule, after as many steps and in the same
state: `Machine.completes_of_run` is that rule for any machine whose steps
commute, and `Machine.Completes` what it establishes.
-/

namespace Machine

variable {σ α : Type*}

-- ---------------------------------------------------------------------------
-- Machines whose steps commute
-- ---------------------------------------------------------------------------

/-- Distinct actions that are enabled together commute. -/
def Diamond (step : σ → α → Option σ) : Prop :=
  ∀ s a b t u, a ≠ b → step s a = some t → step s b = some u →
    ∃ v, step t b = some v ∧ step u a = some v

/-- Every run can be continued to one and the same state, in which nothing is
enabled and which satisfies `P`; all maximal runs are as long as each
other. -/
def Completes (step : σ → α → Option σ) (s : σ) (P : σ → Prop) : Prop :=
  ∃ n t, (∀ a, step t a = none) ∧ P t ∧
    ∀ bs u, run step s bs = some u →
      ∃ cs, run step u cs = some t ∧ bs.length + cs.length = n

/-- An enabled action can be taken first in any run that takes it, and is
still enabled after any run that does not. -/
theorem run_strip [DecidableEq α] {step : σ → α → Option σ} (hstep : Diamond step) {s t u : σ}
    {a : α} {bs : List α} (ha : step s a = some t) (hrun : run step s bs = some u) :
    (a ∈ bs ∧ run step t (bs.erase a) = some u) ∨
      (a ∉ bs ∧ ∃ v, step u a = some v ∧ run step t bs = some v) := by
  induction bs generalizing s t with
  | nil =>
    obtain rfl := Option.some.inj hrun
    exact .inr ⟨List.not_mem_nil, t, ha, rfl⟩
  | cons b bs ih =>
    obtain ⟨s', hb, hrest⟩ := run_cons_eq_some.mp hrun
    by_cases hab : a = b
    · subst hab
      obtain rfl := Option.some.inj (ha.symm.trans hb)
      exact .inl ⟨List.mem_cons_self, by rwa [List.erase_cons_head]⟩
    · -- the first step of the run commutes with the action
      obtain ⟨t', htb, hsa⟩ := hstep s a b t s' hab ha hb
      rcases ih hsa hrest with ⟨hmem, hrun'⟩ | ⟨hmem, v, hv, hrun'⟩
      · refine .inl ⟨List.mem_cons_of_mem b hmem, ?_⟩
        rw [List.erase_cons_tail (by simpa using fun h => hab h.symm)]
        exact run_cons_eq_some.mpr ⟨t', htb, hrun'⟩
      · refine .inr ⟨?_, v, hv, run_cons_eq_some.mpr ⟨t', htb, hrun'⟩⟩
        rw [List.mem_cons, not_or]
        exact ⟨hab, hmem⟩

/-- Every run is the start of one to the end state of a complete run, with
the actions of the latter in another order. -/
theorem run_completes [DecidableEq α] {step : σ → α → Option σ} (hstep : Diamond step)
    {s t u : σ} {as bs : List α} (ht : ∀ a, step t a = none) (has : run step s as = some t)
    (hbs : run step s bs = some u) : ∃ cs, run step u cs = some t ∧ (bs ++ cs).Perm as := by
  induction as generalizing s u bs with
  | nil =>
    obtain rfl := Option.some.inj has
    cases bs with
    | nil =>
      obtain rfl := Option.some.inj hbs
      exact ⟨[], rfl, .refl _⟩
    | cons b bs =>
      obtain ⟨s', hb, -⟩ := run_cons_eq_some.mp hbs
      exact absurd ((ht b).symm.trans hb) (by simp)
  | cons a as ih =>
    obtain ⟨s', ha, hrest⟩ := run_cons_eq_some.mp has
    rcases run_strip hstep ha hbs with ⟨hmem, hrun⟩ | ⟨-, v, hv, hrun⟩
    · obtain ⟨cs, hcs, hperm⟩ := ih hrest hrun
      refine ⟨cs, hcs, ?_⟩
      calc (bs ++ cs).Perm ((a :: bs.erase a) ++ cs) := (List.perm_cons_erase hmem).append_right cs
        _ = a :: (bs.erase a ++ cs) := List.cons_append
        List.Perm _ (a :: as) := hperm.cons a
    · obtain ⟨cs, hcs, hperm⟩ := ih hrest hrun
      refine ⟨a :: cs, run_cons_eq_some.mpr ⟨v, hv, hcs⟩, ?_⟩
      exact List.perm_middle.trans (hperm.cons a)

/-- **Completion rule.** In a machine whose steps commute, one run to a state
in which nothing is enabled shows where all runs end. -/
theorem completes_of_run [DecidableEq α] {step : σ → α → Option σ} (hstep : Diamond step)
    {s t : σ} {as : List α} {P : σ → Prop} (has : run step s as = some t)
    (ht : ∀ a, step t a = none) (hP : P t) : Completes step s P := by
  refine ⟨as.length, t, ht, hP, fun bs u hbs => ?_⟩
  obtain ⟨cs, hcs, hperm⟩ := run_completes hstep ht has hbs
  exact ⟨cs, hcs, by rw [← List.length_append, hperm.length_eq]⟩

end Machine

namespace Dialogue

variable {σ τ μ ν : Type*}

-- ---------------------------------------------------------------------------
-- Dialogues
-- ---------------------------------------------------------------------------

/-- What a party does next: go on by itself, wait for a message, or nothing
more. Either way it may write messages. -/
inductive Move (σ ι ο : Type*) where
  | go (out : List ο) (next : σ)
  | receive (next : ι → List ο × σ)
  | stop

inductive Side where
  | left
  | right
  deriving DecidableEq

/-- The two parties, and the messages on their way. -/
structure State (σ τ μ ν : Type*) where
  left : σ
  right : τ
  toRight : List μ
  toLeft : List ν

/-- A step of one party. Reading from an empty stream blocks. -/
def step (l : σ → Move σ ν μ) (r : τ → Move τ μ ν) (s : State σ τ μ ν) :
    Side → Option (State σ τ μ ν)
  | .left => match l s.left, s.toLeft with
    | .go out next, _ => some { s with left := next, toRight := s.toRight ++ out }
    | .receive next, m :: rest => some { s with
        left := (next m).2, toRight := s.toRight ++ (next m).1, toLeft := rest }
    | _, _ => none
  | .right => match r s.right, s.toRight with
    | .go out next, _ => some { s with right := next, toLeft := s.toLeft ++ out }
    | .receive next, m :: rest => some { s with
        right := (next m).2, toLeft := s.toLeft ++ (next m).1, toRight := rest }
    | _, _ => none

variable {l : σ → Move σ ν μ} {r : τ → Move τ μ ν}

theorem step_left_go {s : State σ τ μ ν} {out : List μ} {next : σ} (h : l s.left = .go out next) :
    step l r s .left = some ⟨next, s.right, s.toRight ++ out, s.toLeft⟩ := by
  simp only [step, h]

theorem step_left_receive {s : State σ τ μ ν} {next : ν → List μ × σ} {m : ν} {rest : List ν}
    {out : List μ} {a : σ} (h : l s.left = .receive next) (hm : s.toLeft = m :: rest)
    (hnext : next m = (out, a)) :
    step l r s .left = some ⟨a, s.right, s.toRight ++ out, rest⟩ := by
  simp only [step, h, hm, hnext]

theorem step_right_go {s : State σ τ μ ν} {out : List ν} {next : τ}
    (h : r s.right = .go out next) :
    step l r s .right = some ⟨s.left, next, s.toRight, s.toLeft ++ out⟩ := by
  simp only [step, h]

theorem step_right_receive {s : State σ τ μ ν} {next : μ → List ν × τ} {m : μ} {rest : List μ}
    {out : List ν} {b : τ} (h : r s.right = .receive next) (hm : s.toRight = m :: rest)
    (hnext : next m = (out, b)) :
    step l r s .right = some ⟨s.left, b, rest, s.toLeft ++ out⟩ := by
  simp only [step, h, hm, hnext]

/-- Two parties that have stopped. -/
theorem step_none {s : State σ τ μ ν} (hl : l s.left = .stop) (hr : r s.right = .stop)
    (side : Side) : step l r s side = none := by
  cases side with
  | left => simp only [step, hl]
  | right => simp only [step, hr]

/-- The left party reads nothing that a step of the right one changes, and
the other way round: each only appends to what the other reads. -/
theorem step_left_right {s t u : State σ τ μ ν} (hl : step l r s .left = some t)
    (hr : step l r s .right = some u) :
    ∃ v, step l r t .right = some v ∧ step l r u .left = some v := by
  obtain ⟨a, b, ab, ba⟩ := s
  simp only [step] at hl hr ⊢
  cases ha : l a with
  | stop => simp [ha] at hl
  | go out next =>
    simp only [ha, Option.some.injEq] at hl
    subst hl
    cases hb : r b with
    | stop => simp [hb] at hr
    | go out' next' =>
      simp only [hb, Option.some.injEq] at hr
      subst hr
      exact ⟨⟨next, next', ab ++ out, ba ++ out'⟩, by simp, by simp [ha]⟩
    | receive next' =>
      cases ab with
      | nil => simp [hb] at hr
      | cons m rest =>
        simp only [hb, Option.some.injEq] at hr
        subst hr
        exact ⟨⟨next, (next' m).2, rest ++ out, ba ++ (next' m).1⟩, by simp, by simp [ha]⟩
  | receive next =>
    cases ba with
    | nil => simp [ha] at hl
    | cons m rest =>
      simp only [ha, Option.some.injEq] at hl
      subst hl
      cases hb : r b with
      | stop => simp [hb] at hr
      | go out' next' =>
        simp only [hb, Option.some.injEq] at hr
        subst hr
        exact ⟨⟨(next m).2, next', ab ++ (next m).1, rest ++ out'⟩, by simp, by simp [ha]⟩
      | receive next' =>
        cases ab with
        | nil => simp [hb] at hr
        | cons m' rest' =>
          simp only [hb, Option.some.injEq] at hr
          subst hr
          exact ⟨⟨(next m).2, (next' m').2, rest' ++ (next m).1, rest ++ (next' m').1⟩, by simp,
            by simp [ha]⟩

theorem step_diamond (l : σ → Move σ ν μ) (r : τ → Move τ μ ν) : Machine.Diamond (step l r) := by
  intro s a b t u hab ha hb
  cases a with
  | left =>
    cases b with
    | left => exact absurd rfl hab
    | right => exact step_left_right ha hb
  | right =>
    cases b with
    | left =>
      obtain ⟨v, hv, hv'⟩ := step_left_right hb ha
      exact ⟨v, hv', hv⟩
    | right => exact absurd rfl hab

end Dialogue
