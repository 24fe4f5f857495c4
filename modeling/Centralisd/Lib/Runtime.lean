import Centralisd.Lib.Effect

/-!
# Programs that call the outside and may panic

Programs call functions outside themselves. A call may fail, and then there
is no value: a pointer is nil and a list is empty. What the outside answers
is up to a host with a state of its own, and every call is recorded with its
answer.

A program stops early in two ways: it returns an error, which its caller gets
to see (`catchError`), or it panics, and then everything ends. Using a nil
pointer (`deref`) and an index that is out of range (`index`) are panics.

`Guarded` is the judgement that a program does not panic and does not go on
after a failed call, other than one whose error it tolerates.
-/

namespace Runtime

/-- What programs call: the calls, and the values they return. -/
structure Interface where
  Call : Type
  Val : Call → Type

inductive Panic where
  | nilDereference
  | indexOutOfRange
  deriving DecidableEq, Repr

inductive Stop where
  | error (msg : String)
  | panic (p : Panic)
  deriving DecidableEq, Repr

/-- A call with its answer. `tolerated` says that the program goes on when it
fails. -/
structure Event (I : Interface) where
  call : I.Call
  answer : Except String (I.Val call)
  tolerated : Bool

def Event.failed {I : Interface} (e : Event I) : Bool :=
  match e.answer with
  | .error _ => true
  | .ok _ => false

structure Host (I : Interface) (σ : Type) where
  answer : (c : I.Call) → σ → Except String (I.Val c) × σ

structure World (I : Interface) (σ γ : Type) where
  host : σ
  /-- the variables of the program's packages -/
  globals : γ
  events : List (Event I) := []

abbrev Prog (I : Interface) (σ γ : Type) := EStateM Stop (World I σ γ)

variable {I : Interface} {σ γ α β : Type}

/-- The world after a call. -/
def World.asked (w : World I σ γ) (H : Host I σ) (c : I.Call) (tolerated : Bool) :
    World I σ γ :=
  { w with
    host := (H.answer c w.host).2
    events := w.events ++ [⟨c, (H.answer c w.host).1, tolerated⟩] }

def ask (H : Host I σ) (c : I.Call) (tolerated : Bool) : Prog I σ γ (Except String (I.Val c)) :=
  fun w => .ok (H.answer c w.host).1 (w.asked H c tolerated)

/-- `v, err := f()` with `if err != nil { return err }`. -/
def call (H : Host I σ) (c : I.Call) : Prog I σ γ (I.Val c) := do
  match ← ask H c false with
  | .error err => throw (.error err)
  | .ok v => pure v

/-- `v, _ := f()`, where a failed call returns the zero value. -/
def valueOr (H : Host I σ) (c : I.Call) (zero : I.Val c) : Prog I σ γ (I.Val c) := do
  match ← ask H c true with
  | .error _ => pure zero
  | .ok v => pure v

/-- `p, _ := f()`, where a failed call returns nil. -/
def pointer (H : Host I σ) (c : I.Call) : Prog I σ γ (Option (I.Val c)) := do
  match ← ask H c true with
  | .error _ => pure none
  | .ok v => pure (some v)

def panic (p : Panic) : Prog I σ γ α := throw (.panic p)

def fail (msg : String) : Prog I σ γ α := throw (.error msg)

/-- An assignment to the variables. -/
def assign (f : γ → γ) : Prog I σ γ Unit := modify fun w => { w with globals := f w.globals }

def deref : Option α → Prog I σ γ α
  | none => panic .nilDereference
  | some a => pure a

def index (xs : List α) (i : Nat) : Prog I σ γ α :=
  match xs[i]? with
  | none => panic .indexOutOfRange
  | some a => pure a

/-- The error that a function has returned, for its caller. -/
def catchError (m : Prog I σ γ α) : Prog I σ γ (Except String α) := fun w =>
  match m w with
  | .ok a w' => .ok (.ok a) w'
  | .error (.error err) w' => .ok (.error err) w'
  | .error (.panic p) w' => .error (.panic p) w'

/-- `defer f()`, or `_ = f()` right after the program, whatever it returns. -/
def deferCall (H : Host I σ) (c : I.Call) (m : Prog I σ γ α) : Prog I σ γ α := do
  let r ← catchError m
  let _ ← ask H c true
  match r with
  | .error err => throw (.error err)
  | .ok a => pure a

/-- `if err != nil { _ = f(); return err }`. -/
def onError (H : Host I σ) (c : I.Call) (m : Prog I σ γ α) : Prog I σ γ α := do
  match ← catchError m with
  | .error err => do
    let _ ← ask H c true
    throw (.error err)
  | .ok a => pure a

def refuseIf (p : Prop) [Decidable p] (msg : String) : Prog I σ γ Unit :=
  if p then fail msg else pure ()

def doIf (b : Bool) (m : Prog I σ γ Unit) : Prog I σ γ Unit := if b then m else pure ()

theorem ask_bind (H : Host I σ) (c : I.Call) (tolerated : Bool)
    (f : Except String (I.Val c) → Prog I σ γ α) (w : World I σ γ) :
    (ask H c tolerated >>= f) w = f (H.answer c w.host).1 (w.asked H c tolerated) := rfl

theorem call_ok {H : Host I σ} {c : I.Call} {w : World I σ γ} {v : I.Val c}
    (h : (H.answer c w.host).1 = .ok v) : call H c w = .ok v (w.asked H c false) := by
  rw [call, ask_bind, h]
  rfl

theorem call_error {H : Host I σ} {c : I.Call} {w : World I σ γ} {err : String}
    (h : (H.answer c w.host).1 = .error err) :
    call H c w = .error (.error err) (w.asked H c false) := by
  rw [call, ask_bind, h]
  rfl

theorem catchError_ok {m : Prog I σ γ α} {w w' : World I σ γ} {a : α} (h : m w = .ok a w') :
    catchError m w = .ok (.ok a) w' := by
  rw [catchError, h]

theorem catchError_error {m : Prog I σ γ α} {w w' : World I σ γ} {err : String}
    (h : m w = .error (.error err) w') : catchError m w = .ok (.error err) w' := by
  rw [catchError, h]

theorem catchError_panic {m : Prog I σ γ α} {w w' : World I σ γ} {p : Panic}
    (h : m w = .error (.panic p) w') : catchError m w = .error (.panic p) w' := by
  rw [catchError, h]

theorem valueOr_bind (H : Host I σ) (c : I.Call) (zero : I.Val c) (f : I.Val c → Prog I σ γ α)
    (w : World I σ γ) :
    (valueOr H c zero >>= f) w =
      f ((H.answer c w.host).1.toOption.getD zero) (w.asked H c true) := by
  have hrun : valueOr H c zero w =
      .ok ((H.answer c w.host).1.toOption.getD zero) (w.asked H c true) := by
    rw [valueOr, ask_bind]
    cases (H.answer c w.host).1 with
    | error err => rfl
    | ok v => rfl
  exact Effect.bind_ok hrun

/-! ## Guarded programs -/

section
variable (inv : γ → Prop) (fatal : Event I → Prop)

/-- The variables are as they should be, and no call had a fatal answer. -/
structure Calm (w : World I σ γ) : Prop where
  globals : inv w.globals
  events : ∀ e ∈ w.events, ¬ fatal e

/-- Only errors that are tolerated have occurred. -/
def Clean (w : World I σ γ) : Prop := ∀ e ∈ w.events, e.failed = true → e.tolerated = true

/-- A run has ended with a value in `Q`, or returned an error. -/
def Ends (Q : α → Prop) : EStateM.Result Stop (World I σ γ) α → Prop
  | .ok a w => Calm inv fatal w ∧ Clean w ∧ Q a
  | .error (.error _) w => Calm inv fatal w
  | .error (.panic _) _ => False

structure Guarded (m : Prog I σ γ α) (Q : α → Prop) : Prop where
  run : ∀ w, Calm inv fatal w → Clean w → Ends inv fatal Q (m w)

end

section
variable {inv : γ → Prop} {fatal : Event I → Prop} {Q : α → Prop}

/-- Before the first call. -/
theorem Calm.fresh {s : σ} {g : γ} (h : inv g) :
    Calm inv fatal ({ host := s, globals := g, events := [] } : World I σ γ) :=
  ⟨h, fun _ he => absurd he List.not_mem_nil⟩

theorem Clean.fresh {s : σ} {g : γ} :
    Clean ({ host := s, globals := g, events := [] } : World I σ γ) :=
  fun _ he => absurd he List.not_mem_nil

/-- The two ways in which a guarded program ends. -/
theorem Guarded.run_cases {m : Prog I σ γ α} {w : World I σ γ} (h : Guarded inv fatal m Q)
    (hcalm : Calm inv fatal w) (hclean : Clean w) :
    (∃ a w', m w = .ok a w' ∧ Calm inv fatal w' ∧ Clean w' ∧ Q a) ∨
    (∃ err w', m w = .error (.error err) w' ∧ Calm inv fatal w') := by
  have hm := h.run w hcalm hclean
  cases hrun : m w with
  | ok a w' =>
    rw [hrun] at hm
    exact .inl ⟨a, w', rfl, hm⟩
  | error stop w' =>
    rw [hrun] at hm
    cases stop with
    | error err => exact .inr ⟨err, w', rfl, hm⟩
    | panic p => exact hm.elim

theorem Guarded.pure {a : α} (h : Q a) :
    Guarded inv fatal (Pure.pure a : Prog I σ γ α) Q :=
  ⟨fun _ hcalm hclean => ⟨hcalm, hclean, h⟩⟩

theorem Guarded.fail (msg : String) : Guarded inv fatal (fail msg : Prog I σ γ α) Q :=
  ⟨fun _ hcalm _ => hcalm⟩

theorem Guarded.bind {m : Prog I σ γ α} {f : α → Prog I σ γ β} {Q' : β → Prop}
    (h : Guarded inv fatal m Q) (h' : ∀ a, Q a → Guarded inv fatal (f a) Q') :
    Guarded inv fatal (m >>= f) Q' := by
  refine ⟨fun w hcalm hclean => ?_⟩
  rcases h.run_cases hcalm hclean with ⟨a, w', hrun, hcalm', hclean', hQ⟩ |
    ⟨err, w', hrun, hcalm'⟩
  · rw [Effect.bind_ok hrun]
    exact (h' a hQ).run w' hcalm' hclean'
  · rw [Effect.bind_error hrun]
    exact hcalm'

theorem Guarded.map {m : Prog I σ γ α} (f : α → β) (h : Guarded inv fatal m Q) :
    Guarded inv fatal (f <$> m) (fun _ => True) := by
  rw [map_eq_pure_bind]
  exact .bind h fun _ _ => .pure trivial

theorem Guarded.weaken {m : Prog I σ γ α} {Q' : α → Prop} (h : Guarded inv fatal m Q)
    (hQ : ∀ a, Q a → Q' a) : Guarded inv fatal m Q' := by
  refine ⟨fun w hcalm hclean => ?_⟩
  rcases h.run_cases hcalm hclean with ⟨a, w', hrun, hcalm', hclean', ha⟩ |
    ⟨err, w', hrun, hcalm'⟩
  · rw [hrun]
    exact ⟨hcalm', hclean', hQ a ha⟩
  · rw [hrun]
    exact hcalm'

theorem Guarded.deref {a : α} {f : α → Prog I σ γ β} {Q' : β → Prop}
    (h : Guarded inv fatal (f a) Q') : Guarded inv fatal (deref (some a) >>= f) Q' := h

theorem Guarded.index {xs : List α} {i : Nat} {a : α} {f : α → Prog I σ γ β} {Q' : β → Prop}
    (ha : xs[i]? = some a) (h : Guarded inv fatal (f a) Q') :
    Guarded inv fatal (index xs i >>= f) Q' := by
  unfold Runtime.index
  rw [ha]
  exact h

/-- What follows a refusal runs under the condition that there was none. -/
theorem Guarded.refuseIf {p : Prop} [Decidable p] {msg : String} {f : Unit → Prog I σ γ α}
    (h : ¬ p → Guarded inv fatal (f ()) Q) : Guarded inv fatal (refuseIf p msg >>= f) Q := by
  unfold Runtime.refuseIf
  split
  · exact .bind (Q := fun _ => False) (.fail msg) fun _ hfalse => hfalse.elim
  · next hp => exact .bind (Q := fun _ => True) (.pure trivial) fun _ _ => h hp

theorem Guarded.doIf {b : Bool} {m : Prog I σ γ Unit} {Q : Unit → Prop} (hQ : Q ())
    (h : Guarded inv fatal m Q) : Guarded inv fatal (doIf b m) Q := by
  cases b with
  | false => exact .pure hQ
  | true => exact h

section
variable {H : Host I σ} {c : I.Call} {tolerated : Bool} {w : World I σ γ}

/-- A recorded call that is not fatal. -/
theorem Calm.asked_of (h : Calm inv fatal w)
    (hfatal : ¬ fatal ⟨c, (H.answer c w.host).1, tolerated⟩) :
    Calm inv fatal (w.asked H c tolerated) where
  globals := h.globals
  events e he := by
    rcases List.mem_append.mp he with hold | hnew
    · exact h.events e hold
    · rw [List.mem_singleton.mp hnew]
      exact hfatal

theorem Calm.asked (h : Calm inv fatal w)
    (hfatal : ∀ answer, ¬ fatal ⟨c, answer, tolerated⟩) : Calm inv fatal (w.asked H c tolerated) :=
  h.asked_of (hfatal _)

theorem Clean.asked (h : Clean w)
    (htolerated : ∀ err, (H.answer c w.host).1 = .error err → tolerated = true) :
    Clean (w.asked H c tolerated) := by
  intro e he hfailed
  rcases List.mem_append.mp he with hold | hnew
  · exact h e hold hfailed
  · obtain rfl := List.mem_singleton.mp hnew
    cases hanswer : (H.answer c w.host).1 with
    | error err => exact htolerated err hanswer
    | ok v => simp [Event.failed, hanswer] at hfailed

/-- A call that returns its error. -/
theorem Guarded.call (hfatal : ∀ answer, ¬ fatal ⟨c, answer, false⟩) :
    Guarded inv fatal (call H c : Prog I σ γ (I.Val c)) (fun _ => True) := by
  refine ⟨fun w hcalm hclean => ?_⟩
  have hcalm' : Calm inv fatal (w.asked H c false) := hcalm.asked hfatal
  rw [Runtime.call, ask_bind]
  cases hanswer : (H.answer c w.host).1 with
  | error err => exact hcalm'
  | ok v => exact ⟨hcalm', hclean.asked fun err herr => by simp [hanswer] at herr, trivial⟩

/-- A call whose error is tolerated, whatever follows it. -/
theorem Guarded.ask {f : Except String (I.Val c) → Prog I σ γ α}
    (hfatal : ∀ answer, ¬ fatal ⟨c, answer, true⟩) (h : ∀ answer, Guarded inv fatal (f answer) Q) :
    Guarded inv fatal (ask H c true >>= f) Q :=
  ⟨fun _ hcalm hclean =>
    (h _).run _ (hcalm.asked hfatal) (hclean.asked fun _ _ => rfl)⟩

/-- What follows a call that returns its error. -/
theorem Guarded.callThen {f : I.Val c → Prog I σ γ α}
    (hfatal : ∀ answer, ¬ fatal ⟨c, answer, false⟩) (h : ∀ v, Guarded inv fatal (f v) Q) :
    Guarded inv fatal (Runtime.call H c >>= f) Q :=
  .bind (.call hfatal) fun v _ => h v

theorem Guarded.valueOr {f : I.Val c → Prog I σ γ α} {zero : I.Val c}
    (hfatal : ∀ answer, ¬ fatal ⟨c, answer, true⟩) (h : ∀ v, Guarded inv fatal (f v) Q) :
    Guarded inv fatal (valueOr H c zero >>= f) Q := by
  refine .bind (Q := fun _ => True) (.ask hfatal fun answer => ?_) fun v _ => h v
  cases answer with
  | error err => exact .pure trivial
  | ok v => exact .pure trivial

theorem Guarded.pointer {f : Option (I.Val c) → Prog I σ γ α}
    (hfatal : ∀ answer, ¬ fatal ⟨c, answer, true⟩) (h : ∀ p, Guarded inv fatal (f p) Q) :
    Guarded inv fatal (pointer H c >>= f) Q := by
  refine .bind (Q := fun _ => True) (.ask hfatal fun answer => ?_) fun p _ => h p
  cases answer with
  | error err => exact .pure trivial
  | ok v => exact .pure trivial

end

/-- A program that reads the variables is shown for all that are as they
should be. -/
theorem Guarded.read {f : World I σ γ → Prog I σ γ α}
    (h : ∀ w, inv w.globals → Guarded inv fatal (f w) Q) : Guarded inv fatal (get >>= f) Q :=
  ⟨fun w hcalm hclean => (h w hcalm.globals).run w hcalm hclean⟩

theorem Guarded.assign {f : γ → γ} {g : Unit → Prog I σ γ α} (hinv : ∀ x, inv x → inv (f x))
    (h : Guarded inv fatal (g ()) Q) : Guarded inv fatal (assign f >>= g) Q :=
  ⟨fun _ hcalm hclean => h.run _ ⟨hinv _ hcalm.globals, hcalm.events⟩ hclean⟩

/-- What is done after a program keeps what it has returned. -/
theorem Guarded.deferCall {H : Host I σ} {c : I.Call} {m : Prog I σ γ α}
    (hfatal : ∀ answer, ¬ fatal ⟨c, answer, true⟩) (h : Guarded inv fatal m Q) :
    Guarded inv fatal (deferCall H c m) Q := by
  refine ⟨fun w hcalm hclean => ?_⟩
  unfold Runtime.deferCall
  rcases h.run_cases hcalm hclean with ⟨a, w', hrun, hcalm', hclean', hQ⟩ |
    ⟨err, w', hrun, hcalm'⟩
  · -- the error of the deferred call is tolerated, so the run stays clean
    rw [Effect.bind_ok (catchError_ok hrun)]
    exact ⟨hcalm'.asked hfatal, hclean'.asked fun _ _ => rfl, hQ⟩
  · rw [Effect.bind_ok (catchError_error hrun)]
    exact Calm.asked (H := H) hcalm' hfatal

theorem Guarded.onError {H : Host I σ} {c : I.Call} {m : Prog I σ γ α}
    (hfatal : ∀ answer, ¬ fatal ⟨c, answer, true⟩) (h : Guarded inv fatal m Q) :
    Guarded inv fatal (onError H c m) Q := by
  refine ⟨fun w hcalm hclean => ?_⟩
  unfold Runtime.onError
  rcases h.run_cases hcalm hclean with ⟨a, w', hrun, hcalm', hclean', hQ⟩ |
    ⟨err, w', hrun, hcalm'⟩
  · rw [Effect.bind_ok (catchError_ok hrun)]
    exact ⟨hcalm', hclean', hQ⟩
  · rw [Effect.bind_ok (catchError_error hrun)]
    exact Calm.asked (H := H) hcalm' hfatal

/-- A loop that makes a list of a list. -/
theorem Guarded.mapM {f : α → Prog I σ γ β} (h : ∀ a, Guarded inv fatal (f a) (fun _ => True))
    (xs : List α) : Guarded inv fatal (xs.mapM f) (fun _ => True) := by
  -- the first error ends the loop, so nothing is kept between iterations
  induction xs with
  | nil =>
    rw [List.mapM_nil]
    exact .pure trivial
  | cons x xs ih =>
    rw [List.mapM_cons]
    exact .bind (h x) fun b _ => .bind ih fun bs _ => .pure trivial

end

end Runtime
