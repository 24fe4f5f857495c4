import Mathlib.Data.Option.Basic
import Mathlib.Data.List.Basic

/-!
# Runs of a labelled machine

A machine is a partial step function `step : σ → α → Option σ`: the action
`α` carries every choice the environment makes (which thread moves, what it
reads, whether a call fails), so a run is a list of actions and its result
is computable.

* `run` — the state a list of actions leads to;
* `Meets ok` — every action of the run is taken in a state that `ok` allows;
* `Holds P` — `P` holds in the start state and in every state on the way;
* `Along R` — `R` relates the states before and after every step;
* `observed obs` — what an observer of the steps has seen after the run.

The two induction rules are `run_invariant` (what every step preserves holds
after every run) and `holds_of_meets` (what every allowed step preserves
holds along every allowed run). `holds_iff_meets` is the exact form: when a
step keeps the property precisely if it is allowed, a run keeps it
everywhere precisely if all its steps are allowed; `along_iff_meets` is the
same for a relation between states. `run_project` carries a component's
invariant to the system it is part of.
-/

namespace Machine

variable {σ τ α β : Type*}

-- ---------------------------------------------------------------------------
-- Runs
-- ---------------------------------------------------------------------------

/-- The state the actions lead to, `none` if one of them is not enabled. -/
def run (step : σ → α → Option σ) (s : σ) (as : List α) : Option σ :=
  as.foldlM step s

@[simp] theorem run_nil (step : σ → α → Option σ) (s : σ) :
    run step s [] = some s := rfl

theorem run_cons (step : σ → α → Option σ) (s : σ) (a : α) (as : List α) :
    run step s (a :: as) = (step s a).bind fun t => run step t as := rfl

theorem run_cons_eq_some {step : σ → α → Option σ} {s u : σ} {a : α} {as : List α} :
    run step s (a :: as) = some u ↔ ∃ t, step s a = some t ∧ run step t as = some u := by
  rw [run_cons, Option.bind_eq_some_iff]

theorem run_append (step : σ → α → Option σ) (s : σ) (as bs : List α) :
    run step s (as ++ bs) = (run step s as).bind fun t => run step t bs :=
  List.foldlM_append

/-- Every action is taken in a state that `ok` allows. -/
def Meets (step : σ → α → Option σ) (ok : σ → α → Prop) : σ → List α → Prop
  | _, [] => True
  | s, a :: as => ok s a ∧ ∀ t, step s a = some t → Meets step ok t as

/-- `P` holds in every state the run goes through, the first and the last
included. -/
def Holds (step : σ → α → Option σ) (P : σ → Prop) : σ → List α → Prop
  | s, [] => P s
  | s, a :: as => P s ∧ ∀ t, step s a = some t → Holds step P t as

/-- Every step of the run relates the state before it to the state after. -/
def Along (step : σ → α → Option σ) (R : σ → σ → Prop) : σ → List α → Prop
  | _, [] => True
  | s, a :: as => ∀ t, step s a = some t → R s t ∧ Along step R t as

/-- **Invariant rule.** What every step preserves holds after every run. -/
theorem run_invariant {step : σ → α → Option σ} {I : σ → Prop}
    (hstep : ∀ s a t, I s → step s a = some t → I t)
    {s t : σ} {as : List α} (hs : I s) (hrun : run step s as = some t) : I t := by
  induction as generalizing s with
  | nil =>
    rw [run_nil, Option.some.injEq] at hrun
    exact hrun ▸ hs
  | cons a as ih =>
    obtain ⟨u, hu, hrest⟩ := run_cons_eq_some.mp hrun
    exact ih (hstep s a u hs hu) hrest

/-- **Guarded invariant rule.** What every allowed step preserves holds after
every run of allowed steps. -/
theorem run_invariant_of_meets {step : σ → α → Option σ} {ok : σ → α → Prop} {I : σ → Prop}
    (hstep : ∀ s a t, I s → ok s a → step s a = some t → I t)
    {s t : σ} {as : List α} (hs : I s) (hok : Meets step ok s as)
    (hrun : run step s as = some t) : I t := by
  induction as generalizing s with
  | nil =>
    rw [run_nil, Option.some.injEq] at hrun
    exact hrun ▸ hs
  | cons a as ih =>
    obtain ⟨u, hu, hrest⟩ := run_cons_eq_some.mp hrun
    exact ih (hstep s a u hs hok.1 hu) (hok.2 u hu) hrest

/-- What every allowed step preserves holds in every state of an allowed
run. -/
theorem holds_of_meets {step : σ → α → Option σ} {ok : σ → α → Prop} {I : σ → Prop}
    (hstep : ∀ s a t, I s → ok s a → step s a = some t → I t)
    {s : σ} {as : List α} (hs : I s) (hok : Meets step ok s as) : Holds step I s as := by
  induction as generalizing s with
  | nil => exact hs
  | cons a as ih =>
    exact ⟨hs, fun u hu => ih (hstep s a u hs hok.1 hu) (hok.2 u hu)⟩

theorem Meets.cons {step : σ → α → Option σ} {ok : σ → α → Prop} {s t : σ} {a : α} {as : List α}
    (hok : ok s a) (hstep : step s a = some t) (h : Meets step ok t as) :
    Meets step ok s (a :: as) :=
  ⟨hok, fun _ hu => Option.some.inj (hstep.symm.trans hu) ▸ h⟩

theorem Meets.append {step : σ → α → Option σ} {ok : σ → α → Prop} {s t : σ} {as bs : List α}
    (h : Meets step ok s as) (hrun : run step s as = some t) (h' : Meets step ok t bs) :
    Meets step ok s (as ++ bs) := by
  induction as generalizing s with
  | nil =>
    rw [run_nil, Option.some.injEq] at hrun
    exact hrun ▸ h'
  | cons a as ih =>
    obtain ⟨u, hu, hrest⟩ := run_cons_eq_some.mp hrun
    exact .cons h.1 hu (ih (h.2 u hu) hrest)

theorem Meets.and {step : σ → α → Option σ} {ok ok' : σ → α → Prop} {s : σ} {as : List α}
    (h : Meets step ok s as) (h' : Meets step ok' s as) :
    Meets step (fun s a => ok s a ∧ ok' s a) s as := by
  induction as generalizing s with
  | nil => trivial
  | cons a as ih => exact ⟨⟨h.1, h'.1⟩, fun u hu => ih (h.2 u hu) (h'.2 u hu)⟩

theorem Holds.mono {step : σ → α → Option σ} {P Q : σ → Prop} (hPQ : ∀ s, P s → Q s)
    {s : σ} {as : List α} (h : Holds step P s as) : Holds step Q s as := by
  induction as generalizing s with
  | nil => exact hPQ s h
  | cons a as ih => exact ⟨hPQ s h.1, fun u hu => ih (h.2 u hu)⟩

theorem Holds.start {step : σ → α → Option σ} {P : σ → Prop} {s : σ} {as : List α}
    (h : Holds step P s as) : P s := by
  cases as with
  | nil => exact h
  | cons a as => exact h.1

theorem Holds.final {step : σ → α → Option σ} {P : σ → Prop} {s t : σ} {as : List α}
    (h : Holds step P s as) (hrun : run step s as = some t) : P t := by
  induction as generalizing s with
  | nil =>
    rw [run_nil, Option.some.injEq] at hrun
    exact hrun ▸ h
  | cons a as ih =>
    obtain ⟨u, hu, hrest⟩ := run_cons_eq_some.mp hrun
    exact ih (h.2 u hu) hrest

/-- **Backward rule.** What no step can restore holds everywhere in a run if
it holds at its end. -/
theorem holds_of_final {step : σ → α → Option σ} {P : σ → Prop}
    (hback : ∀ s a t, step s a = some t → P t → P s)
    {s t : σ} {as : List α} (hrun : run step s as = some t) (ht : P t) : Holds step P s as := by
  induction as generalizing s with
  | nil =>
    rw [run_nil, Option.some.injEq] at hrun
    exact hrun ▸ ht
  | cons a as ih =>
    obtain ⟨u, hu, hrest⟩ := run_cons_eq_some.mp hrun
    have hu' := ih hrest
    refine ⟨hback s a u hu hu'.start, fun v hv => ?_⟩
    obtain rfl : u = v := Option.some.inj (hu.symm.trans hv)
    exact hu'

/-- **Exact guarded rule.** In a run whose steps all satisfy `given`, such
steps preserve `J`, and under `J` and `P` such a step keeps `P` exactly when
it is allowed: then the run keeps `P` everywhere exactly when every step of
it is allowed. -/
theorem holds_iff_meets_of_meets {step : σ → α → Option σ} {given ok : σ → α → Prop}
    {J P : σ → Prop} (hJ : ∀ s a t, J s → given s a → step s a = some t → J t)
    (hP : ∀ s a t, J s → given s a → P s → step s a = some t → (P t ↔ ok s a))
    {s t : σ} {as : List α} (hs : J s) (hPs : P s) (hgiven : Meets step given s as)
    (hrun : run step s as = some t) : Holds step P s as ↔ Meets step ok s as := by
  induction as generalizing s with
  | nil => exact ⟨fun _ => trivial, fun _ => hPs⟩
  | cons a as ih =>
    obtain ⟨u, hu, hrest⟩ := run_cons_eq_some.mp hrun
    have hJu := hJ s a u hs hgiven.1 hu
    have hPu := hP s a u hs hgiven.1 hPs hu
    have hgu := hgiven.2 u hu
    constructor
    · -- `P` after the step shows that the step was allowed
      intro h
      have hu' := h.2 u hu
      refine ⟨hPu.mp hu'.start, fun v hv => ?_⟩
      obtain rfl : u = v := Option.some.inj (hu.symm.trans hv)
      exact (ih hJu hu'.start hgu hrest).mp hu'
    · -- an allowed step keeps `P`, and the rest is the induction
      intro h
      refine ⟨hPs, fun v hv => ?_⟩
      obtain rfl : u = v := Option.some.inj (hu.symm.trans hv)
      exact (ih hJu (hPu.mpr h.1) hgu hrest).mpr (h.2 u hu)

theorem Meets.of_forall {step : σ → α → Option σ} {ok : σ → α → Prop} (hok : ∀ s a, ok s a)
    (s : σ) (as : List α) : Meets step ok s as := by
  induction as generalizing s with
  | nil => trivial
  | cons a as ih => exact ⟨hok s a, fun u _ => ih u⟩

theorem Meets.of_mem {step : σ → α → Option σ} {ok : α → Prop} (s : σ) {as : List α}
    (hok : ∀ a ∈ as, ok a) : Meets step (fun _ => ok) s as := by
  induction as generalizing s with
  | nil => trivial
  | cons a as ih =>
    exact ⟨hok a List.mem_cons_self, fun u _ => ih u fun b hb => hok b (List.mem_cons_of_mem a hb)⟩

/-- The same rule where every step preserves `J`. -/
theorem holds_iff_meets {step : σ → α → Option σ} {ok : σ → α → Prop} {J P : σ → Prop}
    (hJ : ∀ s a t, J s → step s a = some t → J t)
    (hP : ∀ s a t, J s → P s → step s a = some t → (P t ↔ ok s a))
    {s t : σ} {as : List α} (hs : J s) (hPs : P s) (hrun : run step s as = some t) :
    Holds step P s as ↔ Meets step ok s as := by
  have hgiven : Meets step (fun _ _ => True) s as := .of_forall (fun _ _ => trivial) s as
  exact holds_iff_meets_of_meets (fun s a t h _ => hJ s a t h) (fun s a t h _ => hP s a t h)
    hs hPs hgiven hrun

theorem Along.after {step : σ → α → Option σ} {R : σ → σ → Prop} {s t : σ} {as bs : List α}
    (h : Along step R s (as ++ bs)) (hrun : run step s as = some t) : Along step R t bs := by
  induction as generalizing s with
  | nil =>
    rw [run_nil, Option.some.injEq] at hrun
    exact hrun ▸ h
  | cons a as ih =>
    obtain ⟨u, hu, hrest⟩ := run_cons_eq_some.mp hrun
    exact ih (h u hu).2 hrest

/-- **Exact guarded rule for steps.** Allowed steps keep `J`, and under `J` a
step is in the relation exactly when it is allowed: then all steps of a run
are in it exactly when all of them are allowed. -/
theorem along_iff_meets {step : σ → α → Option σ} {ok : σ → α → Prop} {J : σ → Prop}
    {R : σ → σ → Prop} (hJ : ∀ s a t, J s → ok s a → step s a = some t → J t)
    (hR : ∀ s a t, J s → step s a = some t → (R s t ↔ ok s a))
    {s t : σ} {as : List α} (hs : J s) (hrun : run step s as = some t) :
    Along step R s as ↔ Meets step ok s as := by
  induction as generalizing s with
  | nil => exact Iff.rfl
  | cons a as ih =>
    obtain ⟨u, hu, hrest⟩ := run_cons_eq_some.mp hrun
    have hRu := hR s a u hs hu
    constructor
    · intro h
      obtain ⟨hsu, hau⟩ := h u hu
      have hok := hRu.mp hsu
      refine ⟨hok, fun v hv => ?_⟩
      obtain rfl : u = v := Option.some.inj (hu.symm.trans hv)
      exact (ih (hJ s a u hs hok hu) hrest).mp hau
    · intro h v hv
      obtain rfl : u = v := Option.some.inj (hu.symm.trans hv)
      exact ⟨hRu.mpr h.1, (ih (hJ s a u hs h.1 hu) hrest).mpr (h.2 u hu)⟩

/-- **Component rule.** When every step of a system either leaves a component
alone or is a step of the component's own machine, an invariant of that
machine holds of the component after every run of the system. -/
theorem run_project {step : σ → α → Option σ} {cstep : τ → β → Option τ} {f : σ → τ}
    (hsim : ∀ s a t, step s a = some t → f t = f s ∨ ∃ b, cstep (f s) b = some (f t))
    {I : τ → Prop} (hI : ∀ s b t, I s → cstep s b = some t → I t)
    {s t : σ} {as : List α} (hs : I (f s)) (hrun : run step s as = some t) : I (f t) := by
  refine run_invariant (I := fun s => I (f s)) ?_ hs hrun
  intro s a t hs hst
  rcases hsim s a t hst with hsame | ⟨b, hb⟩
  · exact hsame ▸ hs
  · exact hI (f s) b (f t) hs hb

end Machine
