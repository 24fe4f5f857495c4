import Centralisd.Lib.Runtime

/-!
# What a program may call

A rule says which calls are allowed, given the calls before and their answers
(`Each`). `Confined` is the judgement that a program keeps to a rule, however
it ends: with a value, an error or a panic.

A call can be allowed because of an answer, say an object that is changed
only after it was looked up. So the judgement carries evidence: calls that
are known to have been answered before the program starts, and calls that its
value comes with.

What a program does to its host is what its calls do (`Trace`), so what the
allowed calls leave alone stays as it is (`Trace.invariant`).
-/

namespace Runtime

variable {I : Interface} {σ γ α β : Type}

/-- Every event is allowed by the rule, given those before it. -/
def Each (p : List (Event I) → Event I → Prop) (l : List (Event I)) : Prop :=
  ∀ before e after, l = before ++ e :: after → p before e

theorem Each.nil {p : List (Event I) → Event I → Prop} : Each p [] := by
  intro before e after h
  simp at h

/-- A rule is kept by one more event. -/
theorem Each.snoc {p : List (Event I) → Event I → Prop} {l : List (Event I)} {e : Event I}
    (h : Each p l) (he : p l e) : Each p (l ++ [e]) := by
  intro before e' after heq
  rcases List.eq_nil_or_concat after with rfl | ⟨init, last, rfl⟩
  · obtain ⟨rfl, hlast⟩ := List.append_inj' heq rfl
    cases hlast
    exact he
  · -- the new event is the last one, so `e'` was there before
    have heq' : l ++ [e] = (before ++ e' :: init) ++ [last] := by
      rw [heq, List.append_assoc, List.cons_append, List.concat_eq_append]
    exact h before e' init (List.append_inj' heq' rfl).1

/-! ## What calls do to the host -/

/-- The host goes from one state to another while it answers the calls. -/
inductive Trace (H : Host I σ) : σ → List (Event I) → σ → Prop
  | nil (s : σ) : Trace H s [] s
  | cons {s s' : σ} {c : I.Call} {tolerated : Bool} {events : List (Event I)}
      (h : Trace H (H.answer c s).2 events s') :
      Trace H s (⟨c, (H.answer c s).1, tolerated⟩ :: events) s'

theorem Trace.append {H : Host I σ} {s s' s'' : σ} {xs ys : List (Event I)} (h : Trace H s xs s')
    (h' : Trace H s' ys s'') : Trace H s (xs ++ ys) s'' := by
  induction h with
  | nil s => exact h'
  | cons _ ih => exact .cons (ih h')

/-- What no call of a kind changes is not changed by any number of them. -/
theorem Trace.invariant {H : Host I σ} {s s' : σ} {events : List (Event I)}
    (h : Trace H s events s') (P : σ → Prop) (kind : I.Call → Prop)
    (hkind : ∀ e ∈ events, kind e.call)
    (hkeeps : ∀ c s, kind c → P s → P (H.answer c s).2) (hs : P s) : P s' := by
  induction h with
  | nil s => exact hs
  | cons _ ih =>
    obtain ⟨hcall, hrest⟩ := List.forall_mem_cons.mp hkind
    exact ih hrest (hkeeps _ _ hcall hs)

/-- The world has moved on by calls. -/
def Extends (H : Host I σ) (w w' : World I σ γ) : Prop :=
  ∃ new, w'.events = w.events ++ new ∧ Trace H w.host new w'.host

section
variable {H : Host I σ} {w w' w'' : World I σ γ}

theorem Extends.refl (H : Host I σ) (w : World I σ γ) : Extends H w w :=
  ⟨[], (List.append_nil _).symm, .nil _⟩

theorem Extends.trans (h : Extends H w w') (h' : Extends H w' w'') : Extends H w w'' := by
  obtain ⟨xs, hxs, htrace⟩ := h
  obtain ⟨ys, hys, htrace'⟩ := h'
  exact ⟨xs ++ ys, by rw [hys, hxs, List.append_assoc], htrace.append htrace'⟩

theorem Extends.asked (H : Host I σ) (w : World I σ γ) (c : I.Call) (tolerated : Bool) :
    Extends H w (w.asked H c tolerated) :=
  ⟨_, rfl, .cons (.nil _)⟩

theorem Extends.subset (h : Extends H w w') : w.events ⊆ w'.events := by
  obtain ⟨new, hnew, -⟩ := h
  rw [hnew]
  exact List.subset_append_left _ _

end

/-! ## Programs -/

section
variable (H : Host I σ) (p : List (Event I) → Event I → Prop)

/-- How a run from `w` ends when it keeps to the rule; `Q` says what evidence
comes with a value. -/
def Confines (w : World I σ γ) (Q : α → List (Event I) → Prop) :
    EStateM.Result Stop (World I σ γ) α → Prop
  | .ok a w' => Each p w'.events ∧ Extends H w w' ∧ ∃ E, E ⊆ w'.events ∧ Q a E
  | .error _ w' => Each p w'.events ∧ Extends H w w'

structure Confined (E : List (Event I)) (m : Prog I σ γ α) (Q : α → List (Event I) → Prop) :
    Prop where
  run : ∀ w, Each p w.events → E ⊆ w.events → Confines H p w Q (m w)

end

/-- A value without evidence. -/
abbrev Bare (_ : α) (_ : List (Event I)) : Prop := True

section
variable {H : Host I σ} {p : List (Event I) → Event I → Prop} {E : List (Event I)}
  {Q : α → List (Event I) → Prop}

theorem Confines.events {w : World I σ γ} {r : EStateM.Result Stop (World I σ γ) α}
    (h : Confines H p w Q r) : Each p (Effect.stateOf r).events := by
  cases r with
  | ok a w' => exact h.1
  | error stop w' => exact h.1

theorem Confines.weaken {w w₁ : World I σ γ} {Q' : α → List (Event I) → Prop}
    {r : EStateM.Result Stop (World I σ γ) α} (h : Confines H p w₁ Q r)
    (hext : Extends H w w₁) (hQ : ∀ a E, Q a E → Q' a E) : Confines H p w Q' r := by
  cases r with
  | ok a w' =>
    obtain ⟨heach, hext', E, hE, hQE⟩ := h
    exact ⟨heach, hext.trans hext', E, hE, hQ a E hQE⟩
  | error stop w' => exact ⟨h.1, hext.trans h.2⟩

theorem Confined.of_subset {m : Prog I σ γ α} {E' : List (Event I)} (h : Confined H p E m Q)
    (hsub : E ⊆ E') : Confined H p E' m Q :=
  ⟨fun w heach hE => h.run w heach (List.Subset.trans hsub hE)⟩

theorem Confined.weaken {m : Prog I σ γ α} {Q' : α → List (Event I) → Prop}
    (h : Confined H p E m Q) (hQ : ∀ a E, Q a E → Q' a E) : Confined H p E m Q' :=
  ⟨fun w heach hE => (h.run w heach hE).weaken (.refl H w) hQ⟩

theorem Confined.pure {a : α} {E' : List (Event I)} (hsub : E' ⊆ E) (hQ : Q a E') :
    Confined H p E (Pure.pure a : Prog I σ γ α) Q :=
  ⟨fun w heach hE => ⟨heach, .refl H w, E', List.Subset.trans hsub hE, hQ⟩⟩

/-- A value that comes without evidence. -/
theorem Confined.value {a : α} : Confined H p E (Pure.pure a : Prog I σ γ α) Bare :=
  .pure (List.nil_subset E) trivial

theorem Confined.stop {stop : Stop} : Confined H p E (throw stop : Prog I σ γ α) Q :=
  ⟨fun w heach _ => ⟨heach, .refl H w⟩⟩

/-- What follows a program may use its evidence. -/
theorem Confined.bind {m : Prog I σ γ α} {f : α → Prog I σ γ β}
    {Q' : β → List (Event I) → Prop} (h : Confined H p E m Q)
    (h' : ∀ a E', Q a E' → Confined H p (E' ++ E) (f a) Q') : Confined H p E (m >>= f) Q' := by
  refine ⟨fun w heach hE => ?_⟩
  have hm := h.run w heach hE
  cases hrun : m w with
  | ok a w' =>
    rw [hrun] at hm
    obtain ⟨heach', hext, E', hE', hQ⟩ := hm
    rw [Effect.bind_ok hrun]
    have hknown : E' ++ E ⊆ w'.events := List.append_subset.mpr ⟨hE', List.Subset.trans hE hext.subset⟩
    exact ((h' a E' hQ).run w' heach' hknown).weaken hext fun _ _ => id
  | error stop w' =>
    rw [hrun] at hm
    rw [Effect.bind_error hrun]
    exact hm

/-- What follows a program whose evidence is not used. -/
theorem Confined.next {m : Prog I σ γ α} {f : α → Prog I σ γ β}
    {Q' : β → List (Event I) → Prop} (h : Confined H p E m Q)
    (h' : ∀ a, Confined H p E (f a) Q') : Confined H p E (m >>= f) Q' :=
  .bind h fun a _ _ => (h' a).of_subset (List.subset_append_right _ _)

theorem Confined.map {m : Prog I σ γ α} (f : α → β) (h : Confined H p E m Q) :
    Confined H p E (f <$> m) Bare := by
  rw [map_eq_pure_bind]
  exact .next h fun _ => .value

theorem Confined.read {f : World I σ γ → Prog I σ γ α} (h : ∀ w, Confined H p E (f w) Q) :
    Confined H p E (get >>= f) Q :=
  ⟨fun w heach hE => (h w).run w heach hE⟩

theorem Confined.assign {f : γ → γ} {g : Unit → Prog I σ γ α} (h : Confined H p E (g ()) Q) :
    Confined H p E (assign f >>= g) Q :=
  ⟨fun w heach hE => (h.run { w with globals := f w.globals } heach hE).weaken
    ⟨[], (List.append_nil _).symm, .nil _⟩ fun _ _ => id⟩

theorem Confined.deref {a : α} {f : α → Prog I σ γ β} {Q' : β → List (Event I) → Prop}
    (h : Confined H p E (f a) Q') : Confined H p E (deref (some a) >>= f) Q' := h

/-- A pointer that may be nil. -/
theorem Confined.derefAny {o : Option α} {f : α → Prog I σ γ β} {Q' : β → List (Event I) → Prop}
    (h : ∀ a, Confined H p E (f a) Q') : Confined H p E (Runtime.deref o >>= f) Q' := by
  refine .next (Q := Bare) ?_ h
  cases o with
  | none => exact .stop
  | some a => exact .value

theorem Confined.index {xs : List α} {i : Nat} {f : α → Prog I σ γ β}
    {Q' : β → List (Event I) → Prop} (h : ∀ a, Confined H p E (f a) Q') :
    Confined H p E (index xs i >>= f) Q' := by
  refine .next (Q := Bare) ?_ h
  unfold Runtime.index
  cases xs[i]? with
  | none => exact .stop
  | some a => exact .value

theorem Confined.refuseIf {c : Prop} [Decidable c] {msg : String} {f : Unit → Prog I σ γ α}
    (h : ¬ c → Confined H p E (f ()) Q) : Confined H p E (refuseIf c msg >>= f) Q := by
  by_cases hc : c
  · rw [Runtime.refuseIf, if_pos hc]
    exact .bind (Q := fun _ _ => False) .stop fun _ _ hfalse => hfalse.elim
  · rw [Runtime.refuseIf, if_neg hc]
    exact .next (.value (a := ())) fun _ => h hc

theorem Confined.doIf {b : Bool} {m : Prog I σ γ Unit} (h : b = true → Confined H p E m Bare) :
    Confined H p E (doIf b m) Bare := by
  cases b with
  | false => exact .value
  | true => exact h rfl

theorem Confined.catchError {m : Prog I σ γ α} (h : Confined H p E m Q) :
    Confined H p E (catchError m) Bare := by
  refine ⟨fun w heach hE => ?_⟩
  have hm := h.run w heach hE
  cases hrun : m w with
  | ok a w' =>
    rw [hrun] at hm
    rw [catchError_ok hrun]
    exact ⟨hm.1, hm.2.1, [], List.nil_subset _, trivial⟩
  | error stop w' =>
    rw [hrun] at hm
    cases stop with
    | error err =>
      rw [catchError_error hrun]
      exact ⟨hm.1, hm.2, [], List.nil_subset _, trivial⟩
    | panic e =>
      rw [catchError_panic hrun]
      exact hm

section
variable {c : I.Call} {tolerated : Bool}

/-- A call that the rule allows, with its answer as evidence for what
follows. -/
theorem Confined.ask {f : Except String (I.Val c) → Prog I σ γ α}
    (hp : ∀ before answer, E ⊆ before → p before ⟨c, answer, tolerated⟩)
    (h : ∀ answer, Confined H p (⟨c, answer, tolerated⟩ :: E) (f answer) Q) :
    Confined H p E (ask H c tolerated >>= f) Q := by
  refine ⟨fun w heach hE => ?_⟩
  rw [ask_bind]
  have hext := Extends.asked H w c tolerated
  have hnew : ⟨c, (H.answer c w.host).1, tolerated⟩ ∈ (w.asked H c tolerated).events :=
    List.mem_append_right _ (List.mem_singleton_self _)
  refine ((h _).run _ (heach.snoc (hp _ _ hE)) ?_).weaken hext fun _ _ => id
  exact List.cons_subset.mpr ⟨hnew, List.Subset.trans hE hext.subset⟩

/-- A call that returns its error: its value comes with the answer. -/
theorem Confined.answered
    (hp : ∀ before answer, E ⊆ before → p before ⟨c, answer, false⟩) :
    Confined H p E (call H c : Prog I σ γ (I.Val c)) (fun v E' => E' = [⟨c, .ok v, false⟩]) := by
  refine .ask hp fun answer => ?_
  cases answer with
  | error err => exact .stop
  | ok v => exact .pure (List.cons_subset_cons _ (List.nil_subset _)) rfl

theorem Confined.call (hp : ∀ before answer, E ⊆ before → p before ⟨c, answer, false⟩) :
    Confined H p E (call H c : Prog I σ γ (I.Val c)) Bare :=
  (Confined.answered hp).weaken fun _ _ _ => trivial

/-- What follows a call that returns its error. -/
theorem Confined.callThen {f : I.Val c → Prog I σ γ α}
    (hp : ∀ before answer, E ⊆ before → p before ⟨c, answer, false⟩)
    (h : ∀ v, Confined H p (⟨c, .ok v, false⟩ :: E) (f v) Q) :
    Confined H p E (Runtime.call H c >>= f) Q := by
  refine .bind (.answered hp) ?_
  rintro v _ rfl
  exact h v

/-- A call whose error is dropped: its value comes with the answer, or is the
zero value and comes with the error. -/
theorem Confined.answerOr {f : I.Val c → Prog I σ γ α} {zero : I.Val c}
    (hp : ∀ before answer, E ⊆ before → p before ⟨c, answer, true⟩)
    (herr : ∀ err, Confined H p (⟨c, .error err, true⟩ :: E) (f zero) Q)
    (h : ∀ v, Confined H p (⟨c, .ok v, true⟩ :: E) (f v) Q) :
    Confined H p E (Runtime.valueOr H c zero >>= f) Q := by
  refine .bind (Q := fun v E' => (v = zero ∧ ∃ err, E' = [⟨c, .error err, true⟩]) ∨
    E' = [⟨c, .ok v, true⟩]) (.ask hp fun answer => ?_) ?_
  · have hanswer := List.cons_subset_cons (⟨c, answer, true⟩ : Event I) (List.nil_subset E)
    cases answer with
    | error err => exact .pure hanswer (.inl ⟨rfl, err, rfl⟩)
    | ok v => exact .pure hanswer (.inr rfl)
  · rintro v E' (⟨rfl, err, rfl⟩ | rfl)
    · exact herr err
    · exact h v

/-- The same, with nothing learned from the error. -/
theorem Confined.valueOr {f : I.Val c → Prog I σ γ α} {zero : I.Val c}
    (hp : ∀ before answer, E ⊆ before → p before ⟨c, answer, true⟩)
    (hzero : Confined H p E (f zero) Q)
    (h : ∀ v, Confined H p (⟨c, .ok v, true⟩ :: E) (f v) Q) :
    Confined H p E (Runtime.valueOr H c zero >>= f) Q :=
  .answerOr hp (fun _ => hzero.of_subset (List.subset_cons_self _ _)) h

/-- A call whose error is dropped, with nothing learned from its value. -/
theorem Confined.look {f : I.Val c → Prog I σ γ α} {zero : I.Val c}
    (hp : ∀ before answer, E ⊆ before → p before ⟨c, answer, true⟩)
    (h : ∀ v, Confined H p E (f v) Q) : Confined H p E (Runtime.valueOr H c zero >>= f) Q :=
  .valueOr hp (h zero) fun v => (h v).of_subset (List.subset_cons_self _ _)

theorem Confined.pointer {f : Option (I.Val c) → Prog I σ γ α}
    (hp : ∀ before answer, E ⊆ before → p before ⟨c, answer, true⟩)
    (h : ∀ v, Confined H p E (f v) Q) : Confined H p E (pointer H c >>= f) Q := by
  refine .next (Q := Bare) (.ask hp fun answer => ?_) h
  cases answer with
  | error err => exact .value
  | ok v => exact .value

theorem Confined.deferCall {m : Prog I σ γ α}
    (hp : ∀ before answer, E ⊆ before → p before ⟨c, answer, true⟩) (h : Confined H p E m Q) :
    Confined H p E (deferCall H c m) Q := by
  refine ⟨fun w heach hE => ?_⟩
  unfold Runtime.deferCall
  have hm := h.run w heach hE
  cases hrun : m w with
  | ok a w' =>
    rw [hrun] at hm
    obtain ⟨heach', hext, E', hE', hQ⟩ := hm
    rw [Effect.bind_ok (catchError_ok hrun)]
    have hasked := Extends.asked H w' c true
    exact ⟨heach'.snoc (hp _ _ (List.Subset.trans hE hext.subset)), hext.trans hasked, E',
      List.Subset.trans hE' hasked.subset, hQ⟩
  | error stop w' =>
    rw [hrun] at hm
    cases stop with
    | error err =>
      rw [Effect.bind_ok (catchError_error hrun)]
      exact ⟨hm.1.snoc (hp _ _ (List.Subset.trans hE hm.2.subset)), hm.2.trans (.asked H w' c true)⟩
    | panic e =>
      rw [Effect.bind_error (catchError_panic hrun)]
      exact hm

theorem Confined.onError {m : Prog I σ γ α}
    (hp : ∀ before answer, E ⊆ before → p before ⟨c, answer, true⟩) (h : Confined H p E m Q) :
    Confined H p E (onError H c m) Q := by
  refine ⟨fun w heach hE => ?_⟩
  unfold Runtime.onError
  have hm := h.run w heach hE
  cases hrun : m w with
  | ok a w' =>
    rw [hrun] at hm
    rw [Effect.bind_ok (catchError_ok hrun)]
    exact hm
  | error stop w' =>
    rw [hrun] at hm
    cases stop with
    | error err =>
      rw [Effect.bind_ok (catchError_error hrun)]
      exact ⟨hm.1.snoc (hp _ _ (List.Subset.trans hE hm.2.subset)), hm.2.trans (.asked H w' c true)⟩
    | panic e =>
      rw [Effect.bind_error (catchError_panic hrun)]
      exact hm

end

/-- A loop over a list, with nothing known of the elements but that they are
in it. -/
theorem Confined.mapM {f : α → Prog I σ γ β} {xs : List α}
    (h : ∀ a ∈ xs, Confined H p E (f a) Bare) : Confined H p E (xs.mapM f) Bare := by
  induction xs with
  | nil =>
    rw [List.mapM_nil]
    exact .value
  | cons x xs ih =>
    rw [List.mapM_cons]
    refine .next (h x List.mem_cons_self) fun b => ?_
    exact .next (ih fun a ha => h a (List.mem_cons_of_mem _ ha)) fun bs => .value

end

end Runtime
