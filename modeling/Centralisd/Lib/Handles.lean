import Mathlib.Algebra.Order.Group.Multiset
import Centralisd.Lib.Runtime

/-!
# References that have to be given back

Calls hand over references, are made on references, and take references
back. A reference may be handed over more than once, and then has to be given
back as often. So the books are a multiset (`Handles.book`), and a list of
calls passes the audit if each call is made on references that are held at
that point: none is used or given back after it was given back.

`Tracks` is the judgement that a program passes the audit, with the
references it owns before and after. The references of its caller are a
frame that it does not touch. A program that uses variables is `Balanced`
with respect to the references in them.
-/

namespace Runtime

variable {I : Interface} {σ γ α β : Type}

/-- How calls deal with references. -/
structure Handles (I : Interface) (R : Type) where
  /-- what a call is made on -/
  used : I.Call → Multiset R
  /-- what it takes back, whether it fails or not -/
  released : I.Call → Multiset R
  /-- what its value hands over -/
  acquired : (c : I.Call) → I.Val c → Multiset R

variable {R : Type} [DecidableEq R]

section
variable (A : Handles I R)

def Handles.gained (c : I.Call) : Except String (I.Val c) → Multiset R
  | .error _ => 0
  | .ok v => A.acquired c v

/-- A call on references that are there, which hands over nothing and takes
nothing back. -/
structure Handles.Plain (there : Multiset R) (c : I.Call) : Prop where
  used : ∀ r ∈ A.used c, r ∈ there
  released : A.released c = 0
  acquired : ∀ v, A.acquired c v = 0

/-- A call that takes a reference back. -/
structure Handles.Returns (c : I.Call) (r : R) : Prop where
  used : ∀ r' ∈ A.used c, r' = r
  released : A.released c = {r}
  acquired : ∀ v, A.acquired c v = 0

/-- The references held after a call, if it was allowed. -/
def Handles.book (held : Multiset R) (e : Event I) : Option (Multiset R) :=
  if (∀ r ∈ A.used e.call, r ∈ held) ∧ A.released e.call ≤ held then
    some (held - A.released e.call + A.gained e.call e.answer)
  else none

/-- The references held after all calls, if each was allowed. -/
def Handles.audit (start : Multiset R) (events : List (Event I)) : Option (Multiset R) :=
  events.foldlM A.book start

end

section
variable {A : Handles I R} {start held : Multiset R}

@[simp] theorem Handles.audit_nil : A.audit start [] = some start := rfl

theorem Handles.audit_append {xs ys : List (Event I)} (h : A.audit start xs = some held) :
    A.audit start (xs ++ ys) = A.audit held ys := by
  have hfold : A.audit start (xs ++ ys) = (A.audit start xs).bind fun l => A.audit l ys :=
    List.foldlM_append
  rw [hfold, h]
  rfl

theorem Handles.audit_asked (H : Host I σ) (c : I.Call) (tolerated : Bool) {w : World I σ γ}
    (h : A.audit start w.events = some held) (hused : ∀ r ∈ A.used c, r ∈ held)
    (hreleased : A.released c ≤ held) :
    A.audit start (w.asked H c tolerated).events =
      some (held - A.released c + A.gained c (H.answer c w.host).1) := by
  rw [World.asked, audit_append h, audit, List.foldlM_cons, book, if_pos ⟨hused, hreleased⟩]
  rfl

end

/-! ## Programs -/

section
variable (A : Handles I R) (base : Multiset R)

/-- How a run ends that passes the audit: with a value in `post`, or with an
error and what is left then in `lost`. `g` are the variables, which are not
assigned to. -/
def Passes (start frame : Multiset R) (g : γ) (post : α → Multiset R → Prop)
    (lost : Multiset R → Prop) : EStateM.Result Stop (World I σ γ) α → Prop
  | .ok a w => w.globals = g ∧ ∃ l, post a l ∧ A.audit start w.events = some (base + l + frame)
  | .error (.error _) w =>
    w.globals = g ∧ ∃ l, lost l ∧ A.audit start w.events = some (base + l + frame)
  | .error (.panic _) w => ∃ held, A.audit start w.events = some held

/-- A program that owns `own` when it starts, and may use `base` besides. -/
structure Tracks (own : Multiset R) (m : Prog I σ γ α) (post : α → Multiset R → Prop)
    (lost : Multiset R → Prop) : Prop where
  run : ∀ start frame w, A.audit start w.events = some (base + own + frame) →
    Passes A base start frame w.globals post lost (m w)

/-- A program that leaves what it owns as it is. -/
abbrev Steady (own : Multiset R) (m : Prog I σ γ α) : Prop :=
  Tracks A base own m (fun _ l => l = own) (· = own)

end

section
variable {A : Handles I R} {base own : Multiset R} {post : α → Multiset R → Prop}
  {lost : Multiset R → Prop}

theorem Passes.weaken {start frame : Multiset R} {g : γ} {post' : α → Multiset R → Prop}
    {lost' : Multiset R → Prop} {r : EStateM.Result Stop (World I σ γ) α}
    (h : Passes A base start frame g post lost r) (hpost : ∀ a l, post a l → post' a l)
    (hlost : ∀ l, lost l → lost' l) : Passes A base start frame g post' lost' r := by
  cases r with
  | ok a w =>
    obtain ⟨hg, l, hl, haudit⟩ := h
    exact ⟨hg, l, hpost a l hl, haudit⟩
  | error stop w =>
    cases stop with
    | error err =>
      obtain ⟨hg, l, hl, haudit⟩ := h
      exact ⟨hg, l, hlost l hl, haudit⟩
    | panic e => exact h

theorem Tracks.weaken {m : Prog I σ γ α} {post' : α → Multiset R → Prop}
    {lost' : Multiset R → Prop} (h : Tracks A base own m post lost)
    (hpost : ∀ a l, post a l → post' a l) (hlost : ∀ l, lost l → lost' l) :
    Tracks A base own m post' lost' :=
  ⟨fun start frame w haudit => (h.run start frame w haudit).weaken hpost hlost⟩

theorem Tracks.pure {a : α} (h : post a own) :
    Tracks A base own (Pure.pure a : Prog I σ γ α) post lost :=
  ⟨fun _ _ _ haudit => ⟨rfl, own, h, haudit⟩⟩

theorem Tracks.fail {msg : String} (h : lost own) :
    Tracks A base own (fail msg : Prog I σ γ α) post lost :=
  ⟨fun _ _ _ haudit => ⟨rfl, own, h, haudit⟩⟩

theorem Tracks.panic {e : Panic} : Tracks A base own (panic e : Prog I σ γ α) post lost :=
  ⟨fun _ _ _ haudit => ⟨_, haudit⟩⟩

theorem Tracks.bind {m : Prog I σ γ α} {f : α → Prog I σ γ β} {post' : β → Multiset R → Prop}
    (h : Tracks A base own m post lost)
    (h' : ∀ a l, post a l → Tracks A base l (f a) post' lost) :
    Tracks A base own (m >>= f) post' lost := by
  refine ⟨fun start frame w haudit => ?_⟩
  have hm := h.run start frame w haudit
  cases hrun : m w with
  | ok a w' =>
    rw [hrun] at hm
    obtain ⟨hg, l, hl, haudit'⟩ := hm
    rw [Effect.bind_ok hrun, ← hg]
    exact (h' a l hl).run start frame w' haudit'
  | error stop w' =>
    rw [hrun] at hm
    rw [Effect.bind_error hrun]
    cases stop with
    | error err => exact hm
    | panic e => exact hm

/-- What follows a program that leaves everything as it is. -/
theorem Steady.next {m : Prog I σ γ α} {f : α → Prog I σ γ β} {post' : β → Multiset R → Prop}
    (h : Steady A base own m) (hlost : lost own)
    (h' : ∀ a, Tracks A base own (f a) post' lost) : Tracks A base own (m >>= f) post' lost := by
  refine .bind (h.weaken (fun _ _ => id) ?_) ?_
  · rintro _ rfl
    exact hlost
  · rintro a _ rfl
    exact h' a

/-- What the caller owns besides is not touched. -/
theorem Tracks.frame {m : Prog I σ γ α} (rest : Multiset R) (h : Tracks A base own m post lost) :
    Tracks A base (own + rest) m (fun a l => ∃ l', post a l' ∧ l = l' + rest)
      (fun l => ∃ l', lost l' ∧ l = l' + rest) := by
  refine ⟨fun start frame w haudit => ?_⟩
  rw [← add_assoc, add_assoc] at haudit
  have hm := h.run start (rest + frame) w haudit
  cases hrun : m w with
  | ok a w' =>
    rw [hrun] at hm
    obtain ⟨hg, l, hl, haudit'⟩ := hm
    rw [← add_assoc, add_assoc base] at haudit'
    exact ⟨hg, l + rest, ⟨l, hl, rfl⟩, haudit'⟩
  | error stop w' =>
    rw [hrun] at hm
    cases stop with
    | error err =>
      obtain ⟨hg, l, hl, haudit'⟩ := hm
      rw [← add_assoc, add_assoc base] at haudit'
      exact ⟨hg, l + rest, ⟨l, hl, rfl⟩, haudit'⟩
    | panic e => exact hm

theorem Tracks.deref {a : α} {f : α → Prog I σ γ β} {post' : β → Multiset R → Prop}
    (h : Tracks A base own (f a) post' lost) :
    Tracks A base own (deref (some a) >>= f) post' lost := h

theorem Tracks.index {xs : List α} {i : Nat} {f : α → Prog I σ γ β}
    {post' : β → Multiset R → Prop} (hlost : lost own)
    (h : ∀ a, Tracks A base own (f a) post' lost) :
    Tracks A base own (index xs i >>= f) post' lost := by
  refine Steady.next ?_ hlost h
  unfold Runtime.index
  cases xs[i]? with
  | none => exact .panic
  | some a => exact .pure rfl

theorem Tracks.refuseIf {p : Prop} [Decidable p] {msg : String} {f : Unit → Prog I σ γ α}
    (hlost : lost own) (h : ¬ p → Tracks A base own (f ()) post lost) :
    Tracks A base own (refuseIf p msg >>= f) post lost := by
  by_cases hp : p
  · have hfail : Tracks A base own (Runtime.fail msg : Prog I σ γ Unit) (fun _ _ => False) lost :=
      .fail hlost
    rw [Runtime.refuseIf, if_pos hp]
    exact .bind hfail fun _ _ hfalse => hfalse.elim
  · rw [Runtime.refuseIf, if_neg hp]
    exact h hp

theorem Steady.doIf {b : Bool} {m : Prog I σ γ Unit} (h : Steady A base own m) :
    Steady A base own (doIf b m) := by
  cases b with
  | false => exact .pure rfl
  | true => exact h

/-- The error that a program has returned is a value. -/
theorem Tracks.catchError {m : Prog I σ γ α} {Q : Multiset R → Prop}
    (h : Tracks A base own m (fun _ => Q) Q) :
    Tracks A base own (catchError m) (fun _ => Q) (fun _ => False) := by
  refine ⟨fun start frame w haudit => ?_⟩
  have hm := h.run start frame w haudit
  cases hrun : m w with
  | ok a w' =>
    rw [hrun] at hm
    rw [catchError_ok hrun]
    exact hm
  | error stop w' =>
    rw [hrun] at hm
    cases stop with
    | error err =>
      rw [catchError_error hrun]
      exact hm
    | panic e =>
      rw [catchError_panic hrun]
      exact hm

section
variable {H : Host I σ} {c : I.Call} {tolerated : Bool}

/-- A call on what is held, which takes nothing back. -/
theorem Tracks.ask {f : Except String (I.Val c) → Prog I σ γ α}
    (hused : ∀ r ∈ A.used c, r ∈ base + own) (hreleased : A.released c = 0)
    (h : ∀ answer, Tracks A base (A.gained c answer + own) (f answer) post lost) :
    Tracks A base own (ask H c tolerated >>= f) post lost := by
  refine ⟨fun start frame w haudit => ?_⟩
  have hasked := Handles.audit_asked H c tolerated haudit
    (fun r hr => Multiset.mem_add.mpr (.inl (hused r hr)))
    (hreleased ▸ Multiset.zero_le _)
  rw [hreleased, tsub_zero] at hasked
  refine (h _).run start frame _ ?_
  rw [hasked]
  congr 1
  ac_rfl

/-- A call that returns its error. -/
theorem Tracks.call (hused : ∀ r ∈ A.used c, r ∈ base + own) (hreleased : A.released c = 0) :
    Tracks A base own (call H c : Prog I σ γ (I.Val c))
      (fun v l => l = A.acquired c v + own) (· = own) := by
  refine .ask hused hreleased fun answer => ?_
  cases answer with
  | error err => exact .fail (zero_add own)
  | ok v => exact .pure rfl

theorem Tracks.callThen {f : I.Val c → Prog I σ γ α}
    (hused : ∀ r ∈ A.used c, r ∈ base + own) (hreleased : A.released c = 0) (hlost : lost own)
    (h : ∀ v, Tracks A base (A.acquired c v + own) (f v) post lost) :
    Tracks A base own (Runtime.call H c >>= f) post lost := by
  refine .bind ((Tracks.call hused hreleased).weaken (fun _ _ => id) ?_) ?_
  · rintro _ rfl
    exact hlost
  · rintro v _ rfl
    exact h v

omit [DecidableEq R] in
theorem Handles.Plain.gained {there : Multiset R} (h : A.Plain there c)
    (answer : Except String (I.Val c)) : A.gained c answer = 0 := by
  cases answer with
  | error err => rfl
  | ok v => exact h.acquired v

/-- A plain call whose answer is not an error of the program. -/
theorem Tracks.plain (hplain : A.Plain (base + own) c) :
    Tracks A base own (Runtime.ask H c tolerated : Prog I σ γ (Except String (I.Val c)))
      (fun _ l => l = own) (fun _ => False) := by
  rw [← bind_pure (Runtime.ask H c tolerated)]
  refine Tracks.ask hplain.used hplain.released fun answer => .pure ?_
  rw [hplain.gained, zero_add]

/-- What follows a program that cannot fail. -/
theorem Tracks.sure {m : Prog I σ γ α} {f : α → Prog I σ γ β} {post' : β → Multiset R → Prop}
    (h : Tracks A base own m (fun _ l => l = own) (fun _ => False))
    (h' : ∀ a, Tracks A base own (f a) post' lost) : Tracks A base own (m >>= f) post' lost := by
  refine .bind (h.weaken (fun _ _ => id) fun _ hfalse => hfalse.elim) ?_
  rintro a _ rfl
  exact h' a

theorem Steady.call (hplain : A.Plain (base + own) c) :
    Steady A base own (Runtime.call H c : Prog I σ γ (I.Val c)) := by
  refine (Tracks.call hplain.used hplain.released).weaken ?_ fun _ => id
  rintro v _ rfl
  rw [hplain.acquired, zero_add]

theorem Steady.callThen {f : I.Val c → Prog I σ γ α} (hplain : A.Plain (base + own) c)
    (hlost : lost own) (h : ∀ v, Tracks A base own (f v) post lost) :
    Tracks A base own (Runtime.call H c >>= f) post lost :=
  (Steady.call hplain).next hlost h

theorem Tracks.valueOr {f : I.Val c → Prog I σ γ α} {zero : I.Val c}
    (hplain : A.Plain (base + own) c) (h : ∀ v, Tracks A base own (f v) post lost) :
    Tracks A base own (valueOr H c zero >>= f) post lost := by
  refine .sure ((Tracks.plain hplain).sure fun answer => ?_) h
  cases answer with
  | error err => exact .pure rfl
  | ok v => exact .pure rfl

theorem Tracks.pointer {f : Option (I.Val c) → Prog I σ γ α} (hplain : A.Plain (base + own) c)
    (h : ∀ v, Tracks A base own (f v) post lost) :
    Tracks A base own (pointer H c >>= f) post lost := by
  refine .sure ((Tracks.plain hplain).sure fun answer => ?_) h
  cases answer with
  | error err => exact .pure rfl
  | ok v => exact .pure rfl

/-- A reference is given back. -/
theorem Handles.audit_returned {start frame l : Multiset R} {r : R} {w : World I σ γ}
    (hreturns : A.Returns c r) (h : A.audit start w.events = some (base + (r ::ₘ l) + frame)) :
    A.audit start (w.asked H c tolerated).events = some (base + l + frame) := by
  have hmem : r ∈ base + (r ::ₘ l) + frame :=
    Multiset.mem_add.mpr (.inl (Multiset.mem_add.mpr (.inr (Multiset.mem_cons_self r l))))
  have hgained : A.gained c (H.answer c w.host).1 = 0 := by
    cases (H.answer c w.host).1 with
    | error err => rfl
    | ok v => exact hreturns.acquired v
  rw [audit_asked H c tolerated h (fun r' hr' => hreturns.used r' hr' ▸ hmem)
    (hreturns.released ▸ Multiset.singleton_le.mpr hmem), hgained, hreturns.released, add_zero,
    Multiset.add_cons, Multiset.cons_add, Multiset.sub_singleton, Multiset.erase_cons_head]

/-- `_ = f()` for the call that gives a reference back. -/
theorem Tracks.giveBack {f : I.Val c → Prog I σ γ α} {zero : I.Val c} {r : R}
    (hreturns : A.Returns c r) (h : ∀ v, Tracks A base own (f v) post lost) :
    Tracks A base (r ::ₘ own) (Runtime.valueOr H c zero >>= f) post lost := by
  refine ⟨fun start frame w haudit => ?_⟩
  rw [valueOr_bind]
  exact (h _).run start frame _ (Handles.audit_returned hreturns haudit)

/-- `defer` of the call that gives a reference back. -/
theorem Tracks.deferCall {m : Prog I σ γ α} {r : R} (hreturns : A.Returns c r)
    (h : Tracks A base own m (fun a l => ∃ l', post a l' ∧ l = r ::ₘ l')
      (fun l => ∃ l', lost l' ∧ l = r ::ₘ l')) :
    Tracks A base own (deferCall H c m) post lost := by
  refine ⟨fun start frame w haudit => ?_⟩
  unfold Runtime.deferCall
  have hm := h.run start frame w haudit
  cases hrun : m w with
  | ok a w' =>
    rw [hrun] at hm
    obtain ⟨hg, _, ⟨l, hl, rfl⟩, haudit'⟩ := hm
    rw [Effect.bind_ok (catchError_ok hrun)]
    exact ⟨hg, l, hl, Handles.audit_returned hreturns haudit'⟩
  | error stop w' =>
    rw [hrun] at hm
    cases stop with
    | error err =>
      obtain ⟨hg, _, ⟨l, hl, rfl⟩, haudit'⟩ := hm
      rw [Effect.bind_ok (catchError_error hrun)]
      exact ⟨hg, l, hl, Handles.audit_returned hreturns haudit'⟩
    | panic e =>
      rw [Effect.bind_error (catchError_panic hrun)]
      exact hm

/-- A reference that is given back when the program fails. -/
theorem Tracks.onError {m : Prog I σ γ α} {r : R} (hreturns : A.Returns c r)
    (h : Tracks A base own m post (fun l => ∃ l', lost l' ∧ l = r ::ₘ l')) :
    Tracks A base own (onError H c m) post lost := by
  refine ⟨fun start frame w haudit => ?_⟩
  unfold Runtime.onError
  have hm := h.run start frame w haudit
  cases hrun : m w with
  | ok a w' =>
    rw [hrun] at hm
    rw [Effect.bind_ok (catchError_ok hrun)]
    exact hm
  | error stop w' =>
    rw [hrun] at hm
    cases stop with
    | error err =>
      obtain ⟨hg, _, ⟨l, hl, rfl⟩, haudit'⟩ := hm
      rw [Effect.bind_ok (catchError_error hrun)]
      exact ⟨hg, l, hl, Handles.audit_returned hreturns haudit'⟩
    | panic e =>
      rw [Effect.bind_error (catchError_panic hrun)]
      exact hm

/-- A reference that a program uses and that is given back after it. -/
theorem Steady.borrow {m : Prog I σ γ α} {r : R} (hreturns : A.Returns c r)
    (h : Steady A base (r ::ₘ own) m) :
    Tracks A base (r ::ₘ own) (Runtime.deferCall H c m) (fun _ l => l = own) (· = own) := by
  refine .deferCall hreturns (h.weaken ?_ ?_)
  · rintro a _ rfl
    exact ⟨own, rfl, rfl⟩
  · rintro _ rfl
    exact ⟨own, rfl, rfl⟩

end

/-- A loop over references of which each iteration gives one back. When one
fails, those that are left are lost. -/
theorem Tracks.mapM {f : α → Prog I σ γ β} {handle : α → R}
    (h : ∀ x, Tracks A base {handle x} (f x) (fun _ l => l = 0) lost) (xs : List α) :
    Tracks A base ((xs.map handle : List R) + own) (xs.mapM f) (fun _ l => l = own)
      (fun l => (∃ l', lost l') ∧ own ≤ l) := by
  induction xs with
  | nil =>
    rw [List.mapM_nil]
    exact .pure (zero_add own)
  | cons x xs ih =>
    rw [List.mapM_cons]
    have hown : (((x :: xs).map handle : List R) : Multiset R) + own =
        {handle x} + (((xs.map handle : List R) : Multiset R) + own) :=
      add_assoc {handle x} ((xs.map handle : List R) : Multiset R) own
    rw [hown]
    refine .bind (((h x).frame _).weaken (fun _ _ => id) ?_) ?_
    · rintro _ ⟨l', hl', rfl⟩
      refine ⟨⟨l', hl'⟩, ?_⟩
      rw [← add_assoc]
      exact Multiset.le_add_left own _
    · rintro b _ ⟨_, rfl, rfl⟩
      rw [zero_add]
      exact .bind ih fun bs l hl => .pure hl

/-- A loop over references that are each given back in the end. -/
theorem Tracks.mapM_deferCall {H : Host I σ} {f : α → Prog I σ γ β} {back : α → I.Call}
    {handle : α → R} (hreturns : ∀ x, A.Returns (back x) (handle x))
    (h : ∀ x, Tracks A base {handle x} (f x) (fun _ l => l = {handle x}) (fun l => {handle x} ≤ l))
    (xs : List α) :
    Tracks A base ((xs.map handle : List R) + own)
      (xs.mapM fun x => Runtime.deferCall H (back x) (f x)) (fun _ l => l = own)
      (fun l => own ≤ l) := by
  have hbody : ∀ x, Tracks A base {handle x} (Runtime.deferCall H (back x) (f x))
      (fun _ l => l = 0) (fun _ => True) := by
    refine fun x => .deferCall (hreturns x) ((h x).weaken ?_ ?_)
    · rintro b _ rfl
      exact ⟨0, rfl, rfl⟩
    · intro l hl
      obtain ⟨l', rfl⟩ := Multiset.le_iff_exists_add.mp hl
      exact ⟨l', trivial, rfl⟩
  exact (Tracks.mapM hbody xs).weaken (fun _ _ => id) fun _ hl => hl.2

end

/-! ## Variables -/

section
variable (A : Handles I R) (kept : γ → Multiset R)

/-- How a run ends after which only what the variables keep is held, and what
is lost with an error. -/
def Balances (start frame : Multiset R) (lost : Multiset R → Prop) :
    EStateM.Result Stop (World I σ γ) α → Prop
  | .ok _ w => A.audit start w.events = some (kept w.globals + frame)
  | .error (.error _) w => ∃ l, lost l ∧ A.audit start w.events = some (kept w.globals + (l + frame))
  | .error (.panic _) w => ∃ held, A.audit start w.events = some held

/-- A program that may assign to the variables. -/
structure Balanced (m : Prog I σ γ α) (lost : Multiset R → Prop) : Prop where
  run : ∀ start frame w, A.audit start w.events = some (kept w.globals + frame) →
    Balances A kept start frame lost (m w)

end

section
variable {A : Handles I R} {kept : γ → Multiset R} {lost : Multiset R → Prop}

/-- A program that does not assign to the variables, and may use what they
keep. -/
theorem Tracks.balances {base : Multiset R} {m : Prog I σ γ α}
    (h : Tracks A base 0 m (fun _ l => l = 0) lost) {start frame : Multiset R}
    {w : World I σ γ} (haudit : A.audit start w.events = some (kept w.globals + frame))
    (hbase : base ≤ kept w.globals) : Balances A kept start frame lost (m w) := by
  obtain ⟨others, hothers⟩ := Multiset.le_iff_exists_add.mp hbase
  rw [hothers, add_assoc] at haudit
  have hm := h.run start (others + frame) w (by rwa [add_zero])
  cases hrun : m w with
  | ok a w' =>
    rw [hrun] at hm
    obtain ⟨hg, _, rfl, haudit'⟩ := hm
    show A.audit start w'.events = _
    rw [haudit', hg, hothers, add_zero, add_assoc]
  | error stop w' =>
    rw [hrun] at hm
    cases stop with
    | error err =>
      obtain ⟨hg, l, hl, haudit'⟩ := hm
      refine ⟨l, hl, ?_⟩
      rw [haudit', hg, hothers]
      congr 1
      ac_rfl
    | panic e => exact hm

theorem Balanced.of_tracks {m : Prog I σ γ α} (h : Tracks A 0 0 m (fun _ l => l = 0) lost) :
    Balanced A kept m lost :=
  ⟨fun _ _ _ haudit => h.balances haudit (Multiset.zero_le _)⟩

theorem Balanced.bind {m : Prog I σ γ α} {f : α → Prog I σ γ β} (h : Balanced A kept m lost)
    (h' : ∀ a, Balanced A kept (f a) lost) : Balanced A kept (m >>= f) lost := by
  refine ⟨fun start frame w haudit => ?_⟩
  have hm := h.run start frame w haudit
  cases hrun : m w with
  | ok a w' =>
    rw [hrun] at hm
    rw [Effect.bind_ok hrun]
    exact (h' a).run start frame w' hm
  | error stop w' =>
    rw [hrun] at hm
    rw [Effect.bind_error hrun]
    cases stop with
    | error err => exact hm
    | panic e => exact hm

theorem Balanced.map {m : Prog I σ γ α} (f : α → β) (h : Balanced A kept m lost) :
    Balanced A kept (f <$> m) lost := by
  rw [map_eq_pure_bind]
  exact .bind h fun a => .of_tracks (.pure rfl)

theorem Balanced.weaken {m : Prog I σ γ α} {lost' : Multiset R → Prop}
    (h : Balanced A kept m lost) (hlost : ∀ l, lost l → lost' l) : Balanced A kept m lost' := by
  refine ⟨fun start frame w haudit => ?_⟩
  have hm := h.run start frame w haudit
  cases hrun : m w with
  | ok a w' =>
    rw [hrun] at hm
    exact hm
  | error stop w' =>
    rw [hrun] at hm
    cases stop with
    | error err =>
      obtain ⟨l, hl, haudit'⟩ := hm
      exact ⟨l, hlost l hl, haudit'⟩
    | panic e => exact hm

theorem Balanced.refuseIf {p : Prop} [Decidable p] {msg : String} {f : Unit → Prog I σ γ α}
    (hlost : lost 0) (h : ¬ p → Balanced A kept (f ()) lost) :
    Balanced A kept (refuseIf p msg >>= f) lost := by
  by_cases hp : p
  · have hfail : Tracks A 0 0 (Runtime.fail msg : Prog I σ γ Unit) (fun _ _ => False) lost :=
      .fail hlost
    rw [Runtime.refuseIf, if_pos hp]
    exact .of_tracks (.bind hfail fun _ _ hfalse => hfalse.elim)
  · rw [Runtime.refuseIf, if_neg hp]
    exact h hp

/-- A variable that keeps the value of a call, once it has been made. -/
def cached (H : Host I σ) (c : I.Call) (var : γ → Option (I.Val c)) (set : I.Val c → γ → γ) :
    Prog I σ γ (Option (I.Val c)) := do
  let w ← get
  match var w.globals with
  | some v => pure (some v)
  | none => do
    let v ← call H c
    assign (set v)
    pure (some v)

theorem Balanced.cached {H : Host I σ} {c : I.Call} {var : γ → Option (I.Val c)}
    {set : I.Val c → γ → γ} {handle : I.Val c → R} {f : Option (I.Val c) → Prog I σ γ α}
    (hplain : A.used c = 0 ∧ A.released c = 0 ∧ ∀ v, A.acquired c v = {handle v})
    (hvar : ∀ g v, var g = some v → {handle v} ≤ kept g)
    (hset : ∀ g v, var g = none → kept (set v g) = {handle v} + kept g) (hlost : lost 0)
    (h : ∀ v, Tracks A {handle v} 0 (f (some v)) (fun _ l => l = 0) lost) :
    Balanced A kept (cached H c var set >>= f) lost := by
  refine ⟨fun start frame w haudit => ?_⟩
  cases hcached : var w.globals with
  | some v =>
    have hrun : Runtime.cached H c var set w = .ok (some v) w := by
      rw [Runtime.cached, Effect.get_bind, hcached]
      rfl
    rw [Effect.bind_ok hrun]
    exact (h v).balances haudit (hvar _ v hcached)
  | none =>
    obtain ⟨hused, hreleased, hacquired⟩ := hplain
    have hasked := Handles.audit_asked H c false haudit
      (fun r hr => absurd (hused ▸ hr) (Multiset.notMem_zero r)) (hreleased ▸ Multiset.zero_le _)
    rw [hreleased, tsub_zero] at hasked
    cases hanswer : (H.answer c w.host).1 with
    | error err =>
      have hrun : Runtime.cached H c var set w = .error (.error err) (w.asked H c false) := by
        rw [Runtime.cached, Effect.get_bind, hcached]
        exact Effect.bind_error (call_error hanswer)
      rw [hanswer, Handles.gained, add_zero] at hasked
      rw [Effect.bind_error hrun]
      exact ⟨0, hlost, hasked.trans (by rw [zero_add]; rfl)⟩
    | ok v =>
      -- the new reference is kept from here on
      have hrun : Runtime.cached H c var set w =
          .ok (some v) { w.asked H c false with globals := set v w.globals } := by
        rw [Runtime.cached, Effect.get_bind, hcached]
        exact Effect.bind_ok (call_ok hanswer)
      rw [hanswer, Handles.gained, hacquired] at hasked
      rw [Effect.bind_ok hrun]
      refine (h v).balances (hasked.trans (congrArg some ?_)) ?_
      · show kept w.globals + frame + {handle v} = kept (set v w.globals) + frame
        rw [hset _ v hcached]
        ac_rfl
      · show {handle v} ≤ kept (set v w.globals)
        rw [hset _ v hcached]
        exact Multiset.le_add_right _ _

end

end Runtime
