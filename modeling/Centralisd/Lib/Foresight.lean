import Mathlib.Data.Set.Basic
import Mathlib.Logic.Function.Basic
import Centralisd.Lib.Runtime

/-!
# Answers chosen ahead

A program asks its host call by call, and the host may decide each answer
when it is asked. A simpler program over an abstract state is given all its
answers before it starts, as a function of what may be asked (`Foretold`).
`Refines` says that whatever the first one meets, there are answers with
which the second one ends in the same way and in the same state.

The answers are found one after the other. So the judgement carries the
questions that a program decides: the abstract program depends on the
answers to these only, the others can still be anything, and the parts of a
sequence decide different questions.
-/

namespace Runtime

variable {I : Interface} {σ γ τ α β α' β' K : Type} {V : K → Type}

/-- A program whose answers are known before it starts. -/
abbrev Foretold (V : K → Type) (τ β : Type) := ((k : K) → V k) → EStateM String τ β

/-- The answers to the questions in `D` are the same. -/
def Agree (D : Set K) (a a' : (k : K) → V k) : Prop := ∀ k ∈ D, a' k = a k

/-- Two runs end in the same way, with related values, and in the same
abstract state. -/
def Matches (view : σ → τ) (R : α → β → Prop) :
    EStateM.Result Stop (World I σ γ) α → EStateM.Result String τ β → Prop
  | .ok x w, .ok y t => R x y ∧ t = view w.host
  | .error (.error _) w, .error _ t => t = view w.host
  | _, _ => False

/-- The program decides the questions in `D`, and with the answers to them
the abstract program does what it does. -/
structure Refines (view : σ → τ) (D : Set K) (m : Prog I σ γ α) (f : Foretold V τ β)
    (R : α → β → Prop) : Prop where
  run : ∀ (w : World I σ γ) (a₀ : (k : K) → V k), ∃ a : (k : K) → V k, (∀ k ∉ D, a k = a₀ k) ∧
    Matches view R (m w) (f a (view w.host)) ∧
    ∀ a', Agree D a a' → f a' (view w.host) = f a (view w.host)

section
variable {view : σ → τ} {D D' : Set K} {m : Prog I σ γ α} {f : Foretold V τ β} {R : α → β → Prop}

theorem Agree.mono {a a' : (k : K) → V k} (h : Agree D a a') (hsub : D' ⊆ D) : Agree D' a a' :=
  fun k hk => h k (hsub hk)

/-- Some answers are replaced, the rest stay. -/
theorem exists_overlay (D : Set K) (b a₀ : (k : K) → V k) :
    ∃ a, (∀ k ∉ D, a k = a₀ k) ∧ Agree D b a := by
  classical
  refine ⟨fun k => if k ∈ D then b k else a₀ k, fun k hk => if_neg hk, fun k hk => if_pos hk⟩

/-- The ways in which two runs that match can end. -/
theorem Matches.cases {r : EStateM.Result Stop (World I σ γ) α} {r' : EStateM.Result String τ β}
    (h : Matches view R r r') :
    (∃ x y w, r = .ok x w ∧ r' = .ok y (view w.host) ∧ R x y) ∨
    (∃ msg err w, r = .error (.error msg) w ∧ r' = .error err (view w.host)) := by
  cases r with
  | ok x w =>
    cases r' with
    | ok y t =>
      obtain ⟨hR, rfl⟩ := h
      exact .inl ⟨x, y, w, rfl, rfl, hR⟩
    | error err t => exact h.elim
  | error stop w =>
    cases stop with
    | panic p => exact h.elim
    | error msg =>
      cases r' with
      | ok y t => exact h.elim
      | error err t =>
        have ht : t = view w.host := h
        exact .inr ⟨msg, err, w, rfl, ht ▸ rfl⟩

/-- A program that decides nothing, and an abstract one that needs no
answers. -/
theorem Refines.of_matches {f : EStateM String τ β}
    (h : ∀ w : World I σ γ, Matches view R (m w) (f (view w.host))) :
    Refines view D m (fun _ : (k : K) → V k => f) R :=
  ⟨fun w a₀ => ⟨a₀, fun _ _ => rfl, h w, fun _ _ => rfl⟩⟩

theorem Refines.pure {x : α} {y : β} (h : R x y) :
    Refines view D (Pure.pure x : Prog I σ γ α) (fun _ : (k : K) → V k => Pure.pure y) R :=
  .of_matches fun _ => ⟨h, rfl⟩

theorem Refines.fail {msg err : String} :
    Refines view D (Runtime.fail msg : Prog I σ γ α)
      (fun _ : (k : K) → V k => (throw err : EStateM String τ β)) R :=
  .of_matches fun _ => rfl

theorem Refines.mono (h : Refines view D m f R) (hsub : D ⊆ D') : Refines view D' m f R := by
  refine ⟨fun w a₀ => ?_⟩
  obtain ⟨a, hout, hmatch, hdep⟩ := h.run w a₀
  exact ⟨a, fun k hk => hout k fun hmem => hk (hsub hmem), hmatch,
    fun a' hagree => hdep a' (hagree.mono hsub)⟩

/-- The parts of a sequence decide different questions. -/
theorem Refines.bind {n : α → Prog I σ γ α'} {g : β → Foretold V τ β'} {R' : α' → β' → Prop}
    (h : Refines view D m f R) (h' : ∀ x y, R x y → Refines view D' (n x) (g y) R')
    (hdisjoint : ∀ k ∈ D', k ∉ D) :
    Refines view (D ∪ D') (m >>= n) (fun a => f a >>= fun y => g y a) R' := by
  refine ⟨fun w a₀ => ?_⟩
  obtain ⟨a, hout, hmatch, hdep⟩ := h.run w a₀
  rcases hmatch.cases with ⟨x, y, w', hm, hf, hxy⟩ | ⟨msg, err, w', hm, hf⟩
  · -- the second part leaves the answers of the first one alone
    obtain ⟨b, hout', hmatch', hdep'⟩ := (h' x y hxy).run w' a
    have hfirst : ∀ a', Agree (D ∪ D') b a' → f a' (view w.host) = .ok y (view w'.host) := by
      intro a' hagree
      have hD : Agree D a a' := by
        intro k hk
        rw [hagree k (.inl hk), hout' k fun hk' => hdisjoint k hk' hk]
      rw [hdep a' hD, hf]
    have hsecond : ∀ a', Agree (D ∪ D') b a' →
        (f a' >>= fun y => g y a') (view w.host) = g y b (view w'.host) := by
      intro a' hagree
      rw [Effect.bind_ok (hfirst a' hagree)]
      exact hdep' a' (hagree.mono Set.subset_union_right)
    have hb : Agree (D ∪ D') b b := fun _ _ => rfl
    refine ⟨b, fun k hk => ?_, ?_, fun a' hagree => ?_⟩
    · rw [hout' k fun hk' => hk (.inr hk'), hout k fun hk' => hk (.inl hk')]
    · rw [Effect.bind_ok hm, hsecond b hb]
      exact hmatch'
    · rw [hsecond a' hagree, hsecond b hb]
  · have herror : ∀ a', Agree (D ∪ D') a a' →
        (f a' >>= fun y => g y a') (view w.host) = .error err (view w'.host) := by
      intro a' hagree
      refine Effect.bind_error ?_
      rw [hdep a' (hagree.mono Set.subset_union_left), hf]
    have ha : Agree (D ∪ D') a a := fun _ _ => rfl
    refine ⟨a, fun k hk => hout k fun hk' => hk (.inl hk'), ?_, fun a' hagree => ?_⟩
    · rw [Effect.bind_error hm, herror a ha]
      rfl
    · rw [herror a' hagree, herror a ha]

theorem Refines.of_eq {m' : Prog I σ γ α} {f' : Foretold V τ β} (h : Refines view D m f R)
    (hm : ∀ w, m' w = m w) (hf : ∀ a t, f' a t = f a t) : Refines view D m' f' R := by
  refine ⟨fun w a₀ => ?_⟩
  obtain ⟨a, hout, hmatch, hdep⟩ := h.run w a₀
  refine ⟨a, hout, ?_, fun a' hagree => ?_⟩
  · rw [hm, hf]
    exact hmatch
  · rw [hf, hf]
    exact hdep a' hagree

/-- What follows a program and decides nothing. -/
theorem Refines.last {n : α → Prog I σ γ α'} {g : β → Foretold V τ β'} {R' : α' → β' → Prop}
    (h : Refines view D m f R) (h' : ∀ x y, R x y → Refines view ∅ (n x) (g y) R') :
    Refines view D (m >>= n) (fun a => f a >>= fun y => g y a) R' :=
  (h.bind h' fun k hk => absurd hk (Set.notMem_empty k)).mono (Set.union_empty D).subset

/-- What follows a program, and what the abstract one leaves out. -/
theorem Refines.after {n : α → Prog I σ γ α'} {R' : α' → β → Prop} (h : Refines view D m f R)
    (h' : ∀ x y, R x y → Refines view ∅ (n x) (fun _ : (k : K) → V k => Pure.pure y) R') :
    Refines view D (m >>= n) f R' := by
  refine (h.last h').of_eq (fun _ => rfl) fun a t => ?_
  show _ = EStateM.bind (f a) Pure.pure t
  rw [EStateM.bind]
  cases f a t with
  | ok y t' => rfl
  | error err t' => rfl

/-- A value for which the abstract program has answers. -/
theorem Refines.chosen {x : α} (b : (k : K) → V k) (y : β) (hR : R x y)
    (hrun : ∀ a t, Agree D b a → f a t = .ok y t) :
    Refines view D (Pure.pure x : Prog I σ γ α) f R := by
  refine ⟨fun w a₀ => ?_⟩
  obtain ⟨a, hout, hagree⟩ := exists_overlay D b a₀
  refine ⟨a, hout, ?_, fun a' hagree' => ?_⟩
  · rw [hrun a _ hagree]
    exact ⟨hR, rfl⟩
  · rw [hrun a _ hagree, hrun a' _ fun k hk => (hagree' k hk).trans (hagree k hk)]

/-- A check that both programs make. -/
theorem Refines.refuseIf {p : Prop} [Decidable p] {msg err : String} {n : Unit → Prog I σ γ α}
    {g : Unit → Foretold V τ β} (h : ¬ p → Refines view D (n ()) (g ()) R) :
    Refines view D (Runtime.refuseIf p msg >>= n)
      (fun a => Effect.refuseIf p err >>= fun u => g u a) R := by
  by_cases hp : p
  · have hfail : Refines view D (Runtime.fail msg : Prog I σ γ α)
        (fun _ : (k : K) → V k => (throw err : EStateM String τ β)) R := .fail
    refine hfail.of_eq (fun w => ?_) fun a t => Effect.bind_error (Effect.refuseIf_pos hp err t)
    rw [Runtime.refuseIf, if_pos hp]
    rfl
  · refine (h hp).of_eq (fun w => ?_) fun a t => Effect.bind_ok (Effect.refuseIf_neg hp err t)
    rw [Runtime.refuseIf, if_neg hp]
    rfl

/-- A check that only the program makes, and that does not fail. -/
theorem Refines.passed {p : Prop} [Decidable p] {msg : String} {n : Unit → Prog I σ γ α}
    (hp : ¬ p) (h : Refines view D (n ()) f R) :
    Refines view D (Runtime.refuseIf p msg >>= n) f R := by
  rw [Runtime.refuseIf, if_neg hp]
  exact h

theorem Refines.deref {x : α'} {n : α' → Prog I σ γ α} (h : Refines view D (n x) f R) :
    Refines view D (Runtime.deref (some x) >>= n) f R := h

/-- A part that both programs may leave out. -/
theorem Refines.doIf {b : Bool} {m : Prog I σ γ Unit} {f : Foretold V τ Unit}
    {R : Unit → Unit → Prop} (hR : R () ()) (h : b = true → Refines view D m f R) :
    Refines view D (Runtime.doIf b m) (fun a => Effect.doIf b (f a)) R := by
  cases b with
  | false => exact .pure hR
  | true => exact h rfl

/-! ## Calls -/

variable {H : Host I σ} {c : I.Call}

/-- A call of the program, for which the abstract one has answers, whether
it fails or not. -/
theorem Refines.call {f : Foretold V τ β} {R : I.Val c → β → Prop}
    (hfails : ∀ s err, (H.answer c s).1 = .error err → view (H.answer c s).2 = view s ∧
      ∃ (b : (k : K) → V k) (e : String), ∀ a, Agree D b a → f a (view s) = .error e (view s))
    (hdone : ∀ s x, (H.answer c s).1 = .ok x → ∃ (b : (k : K) → V k) (y : β), R x y ∧
      ∀ a, Agree D b a → f a (view s) = .ok y (view (H.answer c s).2)) :
    Refines view D (Runtime.call H c : Prog I σ γ (I.Val c)) f R := by
  refine ⟨fun w a₀ => ?_⟩
  cases hanswer : (H.answer c w.host).1 with
  | error err =>
    obtain ⟨hview, b, e, hrun⟩ := hfails w.host err hanswer
    obtain ⟨a, hout, hagree⟩ := exists_overlay D b a₀
    refine ⟨a, hout, ?_, fun a' hagree' => ?_⟩
    · rw [call_error hanswer, hrun a hagree]
      exact hview.symm
    · rw [hrun a hagree, hrun a' fun k hk => (hagree' k hk).trans (hagree k hk)]
  | ok x =>
    obtain ⟨b, y, hxy, hrun⟩ := hdone w.host x hanswer
    obtain ⟨a, hout, hagree⟩ := exists_overlay D b a₀
    refine ⟨a, hout, ?_, fun a' hagree' => ?_⟩
    · rw [call_ok hanswer, hrun a hagree]
      exact ⟨hxy, rfl⟩
    · rw [hrun a hagree, hrun a' fun k hk => (hagree' k hk).trans (hagree k hk)]

section
variable (hquiet : ∀ s, view (H.answer c s).2 = view s)
include hquiet

/-- Whatever follows a call that does nothing to the abstract state. -/
theorem Refines.ask {n : Except String (I.Val c) → Prog I σ γ α} {tolerated : Bool}
    (h : ∀ answer, Refines view D (n answer) f R) :
    Refines view D (Runtime.ask H c tolerated >>= n) f R := by
  refine ⟨fun w a₀ => ?_⟩
  obtain ⟨a, hout, hmatch, hdep⟩ := (h (H.answer c w.host).1).run (w.asked H c tolerated) a₀
  have hview : view (w.asked H c tolerated).host = view w.host := hquiet w.host
  rw [hview] at hmatch hdep
  exact ⟨a, hout, hmatch, hdep⟩

theorem Refines.look {zero : I.Val c} {n : I.Val c → Prog I σ γ α}
    (h : ∀ v, Refines view D (n v) f R) : Refines view D (Runtime.valueOr H c zero >>= n) f R := by
  have hask : Refines view D
      (Runtime.ask H c true >>= fun answer => n (answer.toOption.getD zero)) f R :=
    .ask hquiet fun answer => h _
  exact hask.of_eq (fun w => valueOr_bind H c zero n w) fun _ _ => rfl

theorem Refines.pointer {n : Option (I.Val c) → Prog I σ γ α}
    (h : ∀ p, Refines view D (n p) f R) : Refines view D (Runtime.pointer H c >>= n) f R := by
  have hask : Refines view D (Runtime.ask H c true >>= fun answer => n answer.toOption) f R :=
    .ask hquiet fun answer => h _
  refine hask.of_eq (fun w => ?_) fun _ _ => rfl
  have hrun : Runtime.pointer H c w =
      .ok (H.answer c w.host).1.toOption (w.asked H c true) := by
    rw [Runtime.pointer, ask_bind]
    cases (H.answer c w.host).1 with
    | error err => rfl
    | ok v => rfl
  rw [Effect.bind_ok hrun]
  rfl

/-- A call whose failure the abstract program sees in its answers. -/
theorem Refines.answer {f : Foretold V τ β} {R : Except String (I.Val c) → β → Prop}
    {tolerated : Bool} (h : ∀ s, ∃ (b : (k : K) → V k) (y : β), R (H.answer c s).1 y ∧
      ∀ a, Agree D b a → f a (view s) = .ok y (view s)) :
    Refines view D (Runtime.ask H c tolerated : Prog I σ γ _) f R := by
  refine ⟨fun w a₀ => ?_⟩
  obtain ⟨b, y, hxy, hrun⟩ := h w.host
  obtain ⟨a, hout, hagree⟩ := exists_overlay D b a₀
  refine ⟨a, hout, ?_, fun a' hagree' => ?_⟩
  · rw [hrun a hagree]
    exact ⟨hxy, (hquiet w.host).symm⟩
  · rw [hrun a hagree, hrun a' fun k hk => (hagree' k hk).trans (hagree k hk)]

theorem Refines.valueOr {zero : I.Val c} {f : Foretold V τ β} {R : I.Val c → β → Prop}
    (h : ∀ s, ∃ (b : (k : K) → V k) (y : β), R ((H.answer c s).1.toOption.getD zero) y ∧
      ∀ a, Agree D b a → f a (view s) = .ok y (view s)) :
    Refines view D (Runtime.valueOr H c zero : Prog I σ γ (I.Val c)) f R := by
  have hanswer : Refines view D (Runtime.ask H c true : Prog I σ γ _) f
      (fun answer y => R (answer.toOption.getD zero) y) := .answer hquiet h
  refine hanswer.after fun answer y hR => ?_
  cases answer with
  | error err => exact .pure hR
  | ok v => exact .pure hR

/-- A call after the program, whatever it returns. -/
theorem Refines.deferCall (h : Refines view D m f R) :
    Refines view D (Runtime.deferCall H c m) f R := by
  refine ⟨fun w a₀ => ?_⟩
  obtain ⟨a, hout, hmatch, hdep⟩ := h.run w a₀
  refine ⟨a, hout, ?_, hdep⟩
  rcases hmatch.cases with ⟨x, y, w', hm, hf, hxy⟩ | ⟨msg, err, w', hm, hf⟩
  · rw [hf, Runtime.deferCall, Effect.bind_ok (catchError_ok hm)]
    exact ⟨hxy, (hquiet w'.host).symm⟩
  · rw [hf, Runtime.deferCall, Effect.bind_ok (catchError_error hm)]
    exact (hquiet w'.host).symm

theorem Refines.onError (h : Refines view D m f R) :
    Refines view D (Runtime.onError H c m) f R := by
  refine ⟨fun w a₀ => ?_⟩
  obtain ⟨a, hout, hmatch, hdep⟩ := h.run w a₀
  refine ⟨a, hout, ?_, hdep⟩
  rcases hmatch.cases with ⟨x, y, w', hm, hf, hxy⟩ | ⟨msg, err, w', hm, hf⟩
  · rw [hf, Runtime.onError, Effect.bind_ok (catchError_ok hm)]
    exact ⟨hxy, rfl⟩
  · rw [hf, Runtime.onError, Effect.bind_ok (catchError_error hm)]
    exact (hquiet w'.host).symm

end

/-! ## Variables -/

theorem Refines.read {n : World I σ γ → Prog I σ γ α} (h : ∀ w, Refines view D (n w) f R) :
    Refines view D (get >>= n) f R :=
  ⟨fun w a₀ => (h w).run w a₀⟩

theorem Refines.assign {u : γ → γ} {n : Unit → Prog I σ γ α} (h : Refines view D (n ()) f R) :
    Refines view D (Runtime.assign u >>= n) f R :=
  ⟨fun w a₀ => h.run { w with globals := u w.globals } a₀⟩

end

end Runtime
