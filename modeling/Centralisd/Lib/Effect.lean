import Mathlib.Order.Basic

/-!
# Programs that may stop halfway

Programs over a state that may end in an error and keep what they have done
so far: `EStateM`. A program is used in two ways here: it is run on a state,
one step at a time (`bind_ok`, `bind_error`), or it is shown to lead from one
assertion to another, errors included (`Triple`).
-/

namespace Effect

variable {ε σ α β : Type}

/-- Stop with the error if the condition holds. -/
def refuseIf (p : Prop) [Decidable p] (err : ε) : EStateM ε σ Unit :=
  if p then throw err else pure ()

/-- Run the program if the flag is set. -/
def doIf (b : Bool) (m : EStateM ε σ Unit) : EStateM ε σ Unit := if b then m else pure ()

/-- The state a run ends in, with or without an error. -/
def stateOf : EStateM.Result ε σ α → σ
  | .ok _ s => s
  | .error _ s => s

/-! ## Running -/

theorem bind_ok {m : EStateM ε σ α} {f : α → EStateM ε σ β} {s s' : σ} {a : α}
    (h : m s = .ok a s') : (m >>= f) s = f a s' := by
  show EStateM.bind m f s = _
  rw [EStateM.bind, h]

theorem bind_error {m : EStateM ε σ α} {f : α → EStateM ε σ β} {s s' : σ} {err : ε}
    (h : m s = .error err s') : (m >>= f) s = .error err s' := by
  show EStateM.bind m f s = _
  rw [EStateM.bind, h]

/-- A sequence that succeeds has a first part that does. -/
theorem bind_eq_ok {m : EStateM ε σ α} {f : α → EStateM ε σ β} {s s' : σ} {b : β}
    (h : (m >>= f) s = .ok b s') : ∃ a s₁, m s = .ok a s₁ ∧ f a s₁ = .ok b s' := by
  cases hrun : m s with
  | ok a s₁ =>
    rw [bind_ok hrun] at h
    exact ⟨a, s₁, rfl, h⟩
  | error err s₁ =>
    rw [bind_error hrun] at h
    cases h

theorem get_bind (f : σ → EStateM ε σ β) (s : σ) : (get >>= f) s = f s s := rfl

theorem refuseIf_pos {p : Prop} [Decidable p] (h : p) (err : ε) (s : σ) :
    refuseIf p err s = .error err s := by
  rw [refuseIf, if_pos h]
  rfl

theorem refuseIf_neg {p : Prop} [Decidable p] (h : ¬ p) (err : ε) (s : σ) :
    refuseIf p err s = .ok () s := by
  rw [refuseIf, if_neg h]
  rfl

theorem doIf_true (m : EStateM ε σ Unit) : doIf true m = m := if_pos rfl

theorem doIf_false (m : EStateM ε σ Unit) (s : σ) : doIf false m s = .ok () s := rfl

/-! ## Assertions -/

/-- From a state in `P` the program ends in `Q`, or with an error in `E`. -/
structure Triple (P : σ → Prop) (m : EStateM ε σ α) (Q : α → σ → Prop) (E : σ → Prop) :
    Prop where
  run : ∀ s, P s → match m s with
    | .ok a s' => Q a s'
    | .error _ s' => E s'

section
variable {P : σ → Prop} {E : σ → Prop} {m : EStateM ε σ α} {Q Q' : α → σ → Prop}

theorem Triple.bind {R : α → σ → Prop} {f : α → EStateM ε σ β} {Q : β → σ → Prop}
    (h : Triple P m R E) (h' : ∀ a, Triple (R a) (f a) Q E) : Triple P (m >>= f) Q E := by
  refine ⟨fun s hs => ?_⟩
  have hm := h.run s hs
  cases hrun : m s with
  | ok a s' =>
    rw [hrun] at hm
    rw [bind_ok hrun]
    exact (h' a).run s' hm
  | error err s' =>
    rw [hrun] at hm
    rw [bind_error hrun]
    exact hm

theorem Triple.pure {a : α} (h : ∀ s, P s → Q a s) :
    Triple P (Pure.pure a : EStateM ε σ α) Q E := ⟨h⟩

theorem Triple.throw {err : ε} (h : ∀ s, P s → E s) :
    Triple P (MonadExcept.throw err : EStateM ε σ α) Q E := ⟨h⟩

theorem Triple.stateOf {I : σ → Prop} (h : Triple P m (fun _ => I) I) (s : σ) (hs : P s) :
    I (Effect.stateOf (m s)) := by
  have hm := h.run s hs
  cases hrun : m s with
  | ok a s' =>
    rw [hrun] at hm
    exact hm
  | error err s' =>
    rw [hrun] at hm
    exact hm

theorem Triple.of_error (h : Triple P m Q E) {s s' : σ} (hs : P s) {err : ε}
    (herr : m s = .error err s') : E s' := by
  have hm := h.run s hs
  rw [herr] at hm
  exact hm

theorem Triple.weaken (h : Triple P m Q E) (hQ : ∀ a s, Q a s → Q' a s) : Triple P m Q' E := by
  refine ⟨fun s hs => ?_⟩
  have hm := h.run s hs
  cases hrun : m s with
  | ok a s' =>
    rw [hrun] at hm
    exact hQ a s' hm
  | error err s' =>
    rw [hrun] at hm
    exact hm

theorem Triple.strengthen {P' : σ → Prop} (h : Triple P m Q E) (hP : ∀ s, P' s → P s) :
    Triple P' m Q E :=
  ⟨fun s hs => h.run s (hP s hs)⟩

/-- From a state in which a program runs as another does elsewhere. -/
theorem Triple.of_run_eq {m' : EStateM ε σ α} {s s' : σ} (h : Triple P m' Q E)
    (heq : m s = m' s') (hs' : P s') : Triple (· = s) m Q E := by
  refine ⟨fun s₀ hs₀ => ?_⟩
  rw [hs₀, heq]
  exact h.run s' hs'

/-- A program that reads the state is shown for each state it may read. -/
theorem Triple.read {f : σ → EStateM ε σ α} (h : ∀ s, P s → Triple (· = s) (f s) Q E) :
    Triple P (get >>= f) Q E := by
  refine ⟨fun s hs => ?_⟩
  rw [get_bind]
  exact (h s hs).run s rfl

theorem Triple.write {s' : σ} {Q : Unit → σ → Prop} (h : Q () s') :
    Triple P (set s' : EStateM ε σ Unit) Q E :=
  ⟨fun _ _ => h⟩

theorem Triple.refuseIf {p : Prop} [Decidable p] {err : ε} (hE : ∀ s, P s → E s) :
    Triple P (Effect.refuseIf p err : EStateM ε σ Unit) (fun _ s => P s ∧ ¬ p) E := by
  refine ⟨fun s hs => ?_⟩
  by_cases hp : p
  · rw [refuseIf_pos hp]
    exact hE s hs
  · rw [refuseIf_neg hp]
    exact ⟨hs, hp⟩

/-- What follows a refusal runs under the condition that there was none. -/
theorem Triple.guard {p : Prop} [Decidable p] {err : ε} {f : Unit → EStateM ε σ α}
    (hE : ∀ s, P s → E s) (h : ¬ p → Triple P (f ()) Q E) :
    Triple P (Effect.refuseIf p err >>= f) Q E := by
  refine ⟨fun s hs => ?_⟩
  by_cases hp : p
  · rw [bind_error (refuseIf_pos hp err s)]
    exact hE s hs
  · rw [bind_ok (refuseIf_neg hp err s)]
    exact (h hp).run s hs

theorem Triple.doIf {b : Bool} {m : EStateM ε σ Unit} {Q : Unit → σ → Prop}
    (h : b = true → Triple P m Q E) (hskip : ∀ s, P s → Q () s) :
    Triple P (Effect.doIf b m) Q E := by
  cases b with
  | false => exact ⟨fun s hs => hskip s hs⟩
  | true => exact h rfl

end

end Effect
