import Centralisd.Lib.Machine
import Mathlib.Logic.Function.Basic
import Mathlib.Logic.Relation

/-!
# Threads over one shared variable

Any number of threads run one program, each on its own argument and with its
own local state, and all of them read and write one variable. A step of a
thread is atomic, and the actions of a run say which thread moves.

A thread depends on the variable only in some of its local states, those
where it `uses` it: there the variable should still hold what the thread
wrote last. `Undisturbed` is the condition on a step that it does not take
this away from another thread, and `faithful_of_undisturbed` the rule: in a
run of such steps every thread is where it is when it runs alone.
-/

namespace Shared

variable {V L G : Type*}

/-- A program: where a thread starts, and what its next step does to its
local state and to the variable; `none` where it has ended. -/
structure Program (V L G : Type*) where
  entry : L
  next : V → L → G → Option (L × G)

structure State (V L G : Type*) where
  shared : G
  threads : Nat → Option (V × L)

inductive Action (V : Type*) where
  | spawn (i : Nat) (v : V)
  | step (i : Nat)

def State.init (g : G) : State V L G where
  shared := g
  threads := fun _ => none

def step (p : Program V L G) (s : State V L G) : Action V → Option (State V L G)
  | .spawn i v =>
    match s.threads i with
    | some _ => none
    | none => some { s with threads := Function.update s.threads i (some (v, p.entry)) }
  | .step i =>
    match s.threads i with
    | none => none
    | some (v, l) =>
      match p.next v l s.shared with
      | none => none
      | some (l', g) => some ⟨g, Function.update s.threads i (some (v, l'))⟩

/-- What a step of the system can do. -/
theorem step_cases {p : Program V L G} {s t : State V L G} {a : Action V}
    (h : step p s a = some t) :
    (∃ i v, a = .spawn i v ∧ t = ⟨s.shared, Function.update s.threads i (some (v, p.entry))⟩) ∨
    ∃ i v l l' g, a = .step i ∧ s.threads i = some (v, l) ∧ p.next v l s.shared = some (l', g) ∧
      t = ⟨g, Function.update s.threads i (some (v, l'))⟩ := by
  cases a with
  | spawn i v =>
    unfold step at h
    dsimp only at h
    split at h
    · exact absurd h (by simp)
    · exact .inl ⟨i, v, rfl, (Option.some.inj h).symm⟩
  | step i =>
    unfold step at h
    dsimp only at h
    split at h
    · exact absurd h (by simp)
    · rename_i v l hl
      split at h
      · exact absurd h (by simp)
      · rename_i l' g hnext
        exact .inr ⟨i, v, l, l', g, rfl, hl, hnext, (Option.some.inj h).symm⟩

/-! ## One thread alone -/

/-- The steps of a thread that has the variable for itself. -/
def Program.Alone (p : Program V L G) (v : V) : L × G → L × G → Prop :=
  Relation.ReflTransGen fun a b => p.next v a.1 a.2 = some b

/-- Where a thread ends when it runs alone is determined. -/
theorem Program.Alone.end_unique {p : Program V L G} {v : V} {a b c : L × G}
    (hb : p.Alone v a b) (hbend : p.next v b.1 b.2 = none)
    (hc : p.Alone v a c) (hcend : p.next v c.1 c.2 = none) : b = c := by
  have hunique : Relator.RightUnique fun a b : L × G => p.next v a.1 a.2 = some b := by
    intro a b c hb hc
    exact Option.some.inj (hb.symm.trans hc)
  have hend : ∀ {a b : L × G}, p.next v a.1 a.2 = none → p.Alone v a b → a = b := by
    intro a b ha hab
    rcases Relation.ReflTransGen.cases_head hab with h | ⟨d, hd, -⟩
    · exact h
    · exact absurd (ha.symm.trans hd) (by simp)
  rcases Relation.ReflTransGen.total_of_right_unique hunique hb hc with hbc | hcb
  · exact hend hbend hbc
  · exact (hend hcend hcb).symm

/-! ## Threads that do not disturb each other -/

section Uses

variable {p : Program V L G} {uses : L → Prop}

/-- Where a thread does not use the variable, its step does not depend on
what the variable holds. -/
def Program.Uses (p : Program V L G) (uses : L → Prop) : Prop :=
  ∀ v l g g' l' h, ¬ uses l → p.next v l g = some (l', h) →
    ∃ h', p.next v l g' = some (l', h') ∧ (uses l' → h = h')

/-- The step leaves the variable as it is, or no other thread uses it. -/
def Undisturbed (p : Program V L G) (uses : L → Prop) (s : State V L G) : Action V → Prop
  | .spawn _ _ => True
  | .step i => ∀ v l l' g, s.threads i = some (v, l) → p.next v l s.shared = some (l', g) →
      g = s.shared ∨ ∀ j w m, j ≠ i → s.threads j = some (w, m) → ¬ uses m

/-- Every thread is where it is when it runs alone, and where it uses the
variable it finds what it finds alone. -/
def Faithful (p : Program V L G) (uses : L → Prop) (g₀ : G) (s : State V L G) : Prop :=
  ∀ i v l, s.threads i = some (v, l) →
    ∃ own, p.Alone v (p.entry, g₀) (l, own) ∧ (uses l → s.shared = own)

theorem faithful_init (p : Program V L G) (uses : L → Prop) (g₀ : G) :
    Faithful p uses g₀ (.init g₀) := by
  intro i v l h
  exact absurd h (by simp [State.init])

/-- The thread that moves keeps up with its own run. -/
theorem own_step (huses : p.Uses uses) {v : V} {l l' : L} {g g₀ h own : G}
    (halone : p.Alone v (p.entry, g₀) (l, own)) (hown : uses l → g = own)
    (hnext : p.next v l g = some (l', h)) :
    ∃ own', p.Alone v (p.entry, g₀) (l', own') ∧ (uses l' → h = own') := by
  by_cases hl : uses l
  · obtain rfl := hown hl
    exact ⟨h, halone.tail hnext, fun _ => rfl⟩
  · obtain ⟨h', hnext', heq⟩ := huses v l g own l' h hl hnext
    exact ⟨h', halone.tail hnext', heq⟩

theorem step_faithful (huses : p.Uses uses) (hentry : ¬ uses p.entry) {g₀ : G}
    {s t : State V L G} {a : Action V} (hs : Faithful p uses g₀ s)
    (hok : Undisturbed p uses s a) (h : step p s a = some t) : Faithful p uses g₀ t := by
  rcases step_cases h with ⟨i, v, rfl, rfl⟩ | ⟨i, v, l, l', g, rfl, hl, hnext, rfl⟩
  · intro j w m hm
    by_cases hj : j = i
    · subst hj
      simp only [Function.update_self, Option.some.injEq, Prod.mk.injEq] at hm
      obtain ⟨rfl, rfl⟩ := hm
      exact ⟨g₀, .refl, fun hu => absurd hu hentry⟩
    · simp only [Function.update_of_ne hj] at hm
      exact hs j w m hm
  · intro j w m hm
    by_cases hj : j = i
    · subst hj
      simp only [Function.update_self, Option.some.injEq, Prod.mk.injEq] at hm
      obtain ⟨rfl, rfl⟩ := hm
      obtain ⟨own, halone, hown⟩ := hs j v l hl
      exact own_step huses halone hown hnext
    · -- another thread: the variable is as it was, or the thread does not use it
      simp only [Function.update_of_ne hj] at hm
      obtain ⟨own, halone, hown⟩ := hs j w m hm
      refine ⟨own, halone, fun hu => ?_⟩
      rcases hok v l l' g hl hnext with hsame | hfree
      · exact hsame.trans (hown hu)
      · exact absurd hu (hfree j w m hj hm)

/-- **Isolation rule.** In a run of undisturbed steps every thread is where
it is when it runs alone. -/
theorem faithful_of_undisturbed (huses : p.Uses uses) (hentry : ¬ uses p.entry) (g₀ : G)
    {as : List (Action V)} (hok : Machine.Meets (step p) (Undisturbed p uses) (.init g₀) as) :
    Machine.Holds (step p) (Faithful p uses g₀) (.init g₀) as :=
  Machine.holds_of_meets (fun _ _ _ hs hok h => step_faithful huses hentry hs hok h)
    (faithful_init p uses g₀) hok

end Uses

end Shared
