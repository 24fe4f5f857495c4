import Mathlib.Logic.Function.Basic
import Centralisd.Lib.Machine

/-!
# Writers that share a stream

Any number of threads write messages to one stream of letters. A message is
written as its frame, which may reach the stream in pieces, and a lock is
held from the first piece to the last. A write to the stream may fail at any
letter; then no later write is accepted, and every call returns an error.

The state records what the threads themselves do not keep: the messages in
the order in which the lock was taken, those whose frames are on the stream
as a whole, and those whose calls have returned without an error.

* `Point` — where the writers are, and what this says of the stream;
* `inv_run` — it holds in every state of every run: the stream is made of
  whole frames, in the order of the lock, and at most one piece at its end;
* `exists_cut` — so is every beginning of the stream.
-/

namespace Serial

open Machine

variable {T M A : Type}

/-- The call that has the lock, with the letters it has not yet written. -/
structure Call (T M A : Type) where
  thread : T
  msg : M
  rest : List A

structure State (T M A : Type) where
  /-- what each thread has still to write -/
  todo : T → List M
  call : Option (Call T M A)
  stream : List A
  /-- a write has failed -/
  broken : Bool
  /-- the messages for which the lock was taken -/
  taken : List (T × M)
  /-- those whose frames are on the stream -/
  written : List (T × M)
  /-- those whose calls have returned without an error -/
  returned : List (T × M)

def init (program : T → List M) : State T M A where
  todo := program
  call := none
  stream := []
  broken := false
  taken := []
  written := []
  returned := []

inductive Action (T : Type) where
  | lock (t : T)
  /-- the next letters reach the stream -/
  | put (n : Nat)
  /-- some letters reach the stream, and the write fails -/
  | fail (n : Nat)
  /-- the call returns -/
  | unlock

/-- The next letters of a call's frame reach the stream. -/
def State.put (s : State T M A) (c : Call T M A) (n : Nat) : State T M A :=
  { s with
    call := some { c with rest := c.rest.drop n }
    stream := s.stream ++ c.rest.take n
    written := if n < c.rest.length then s.written else s.written ++ [(c.thread, c.msg)] }

/-- Without an error the call returns once its frame is written. -/
def State.unlock (s : State T M A) (c : Call T M A) : Option (State T M A) :=
  if s.broken = true then some { s with call := none }
  else if c.rest = [] then
    some { s with call := none, returned := s.returned ++ [(c.thread, c.msg)] }
  else none

/-! ## Streams -/

section
variable (frame : M → List A)

/-- The frames of messages, one after the other. -/
def whole (ms : List (T × M)) : List A := (ms.map fun m => frame m.2).flatten

theorem whole_append (ms ms' : List (T × M)) :
    whole frame (ms ++ ms') = whole frame ms ++ whole frame ms' := by
  rw [whole, List.map_append, List.flatten_append]
  rfl

theorem whole_singleton (m : T × M) : whole frame [m] = frame m.2 :=
  List.append_nil _

/-- A piece of a frame, not the whole of it. -/
def Torn (piece : List A) : Prop :=
  piece = [] ∨ ∃ m rest, rest ≠ [] ∧ frame m = piece ++ rest

end

section
variable {frame : M → List A}

/-- A piece of a piece is one. -/
theorem Torn.of_prefix {piece piece' : List A} (h : Torn frame piece) (hpre : piece' <+: piece) :
    Torn frame piece' := by
  obtain ⟨more, rfl⟩ := hpre
  rcases h with hnil | ⟨m, rest, hrest, hframe⟩
  · exact .inl (List.append_eq_nil_iff.mp hnil).1
  · refine .inr ⟨m, more ++ rest, ?_, ?_⟩
    · exact fun hnil => hrest (List.append_eq_nil_iff.mp hnil).2
    · rw [hframe, List.append_assoc]

/-- Where a beginning of whole frames and a piece is cut: after some of the
frames, in the middle of the next one. -/
theorem exists_cut {ms : List (T × M)} {piece cut : List A} (htorn : Torn frame piece)
    (hcut : cut <+: whole frame ms ++ piece) :
    ∃ k piece', Torn frame piece' ∧ cut = whole frame (ms.take k) ++ piece' ∧ k ≤ ms.length := by
  induction ms generalizing cut with
  | nil => exact ⟨0, cut, htorn.of_prefix hcut, rfl, Nat.le_refl 0⟩
  | cons m ms ih =>
    have hsplit : whole frame (m :: ms) ++ piece = frame m.2 ++ (whole frame ms ++ piece) :=
      List.append_assoc _ _ _
    rw [hsplit] at hcut
    rcases List.prefix_or_prefix_of_prefix hcut (List.prefix_append _ _) with hin | ⟨cut', rfl⟩
    · -- within the first frame
      obtain ⟨rest, hrest⟩ := hin
      by_cases hend : rest = []
      · refine ⟨1, [], .inl rfl, ?_, Nat.succ_le_succ (Nat.zero_le _)⟩
        rw [hend, List.append_nil] at hrest
        rw [List.append_nil, List.take_succ_cons, List.take_zero, whole_singleton, hrest]
      · exact ⟨0, cut, .inr ⟨m.2, rest, hend, hrest.symm⟩, rfl, Nat.zero_le _⟩
    · obtain ⟨k, piece', htorn', rfl, hk⟩ := ih ((List.prefix_append_right_inj _).mp hcut)
      exact ⟨k + 1, piece', htorn', (List.append_assoc _ _ _).symm, Nat.succ_le_succ hk⟩

end

/-! ## Where the writers are -/

section
variable (frame : M → List A)

/-- Where the writers are. -/
inductive Point (s : State T M A) : Prop where
  | free (hcall : s.call = none) (hbroken : s.broken = false)
      (hstream : s.stream = whole frame s.written) (hwritten : s.written = s.taken)
      (hreturned : s.returned = s.written)
  | writing (c : Call T M A) (piece : List A) (hcall : s.call = some c)
      (hbroken : s.broken = false) (hrest : c.rest ≠ []) (hframe : frame c.msg = piece ++ c.rest)
      (hstream : s.stream = whole frame s.written ++ piece)
      (htaken : s.taken = s.written ++ [(c.thread, c.msg)]) (hreturned : s.returned = s.written)
  | returning (c : Call T M A) (hcall : s.call = some c) (hbroken : s.broken = false)
      (hrest : c.rest = []) (hstream : s.stream = whole frame s.written)
      (hwritten : s.written = s.taken) (hreturned : s.written = s.returned ++ [(c.thread, c.msg)])
  | failed (piece : List A) (hbroken : s.broken = true) (htorn : Torn frame piece)
      (hstream : s.stream = whole frame s.written ++ piece) (hwritten : s.written <+: s.taken)
      (hreturned : s.returned <+: s.written)

end

section
variable {frame : M → List A}

/-- The letters of a call that reach the stream leave a piece of its frame,
or complete it. -/
theorem put_whole {s : State T M A} {c : Call T M A} {piece : List A}
    (hframe : frame c.msg = piece ++ c.rest)
    (hstream : s.stream = whole frame s.written ++ piece) (n : Nat) :
    (n < c.rest.length ∧ (s.put c n).written = s.written ∧ c.rest.drop n ≠ [] ∧
        frame c.msg = (piece ++ c.rest.take n) ++ c.rest.drop n ∧
        (s.put c n).stream = whole frame s.written ++ (piece ++ c.rest.take n)) ∨
      (c.rest.drop n = [] ∧ (s.put c n).written = s.written ++ [(c.thread, c.msg)] ∧
        (s.put c n).stream = whole frame (s.written ++ [(c.thread, c.msg)])) := by
  rcases Nat.lt_or_ge n c.rest.length with hlt | hge
  · refine .inl ⟨hlt, if_pos hlt, ?_, ?_, ?_⟩
    · rw [Ne, List.drop_eq_nil_iff]
      omega
    · rw [hframe, List.append_assoc, List.take_append_drop]
    · rw [← List.append_assoc, ← hstream]
      rfl
  · refine .inr ⟨List.drop_eq_nil_of_le hge, if_neg (Nat.not_lt.mpr hge), ?_⟩
    show s.stream ++ c.rest.take n = _
    rw [whole_append, whole_singleton, hframe, hstream, List.append_assoc,
      List.take_of_length_le hge]

theorem point_put {s : State T M A} {c : Call T M A} {n : Nat} (hp : Point frame s)
    (hcall : s.call = some c) (hbroken : s.broken = false) (hpos : 0 < n)
    (hn : n ≤ c.rest.length) : Point frame (s.put c n) := by
  cases hp with
  | free hfree => exact absurd (hcall.symm.trans hfree) (Option.some_ne_none c)
  | returning c' hcall' _ hrest =>
    obtain rfl := Option.some.inj (hcall.symm.trans hcall')
    rw [hrest] at hn
    exact absurd hn (Nat.not_le.mpr hpos)
  | failed _ htrue => exact absurd (hbroken.symm.trans htrue) Bool.false_ne_true
  | writing c' piece hcall' _ hrest hframe hstream htaken hreturned =>
    obtain rfl := Option.some.inj (hcall.symm.trans hcall')
    rcases put_whole hframe hstream n with ⟨-, hwritten, hdrop, hframe', hstream'⟩ |
      ⟨hdrop, hwritten, hstream'⟩
    · refine .writing { c with rest := c.rest.drop n } (piece ++ c.rest.take n) rfl hbroken hdrop
        hframe' ?_ ?_ ?_
      · rw [hwritten, hstream']
      · rw [hwritten]
        exact htaken
      · rw [hwritten]
        exact hreturned
    · refine .returning { c with rest := c.rest.drop n } rfl hbroken hdrop ?_ ?_ ?_
      · rw [hwritten, hstream']
      · rw [hwritten]
        exact htaken.symm
      · rw [hwritten]
        exact congrArg (· ++ [(c.thread, c.msg)]) hreturned.symm

/-- After a failure the pieces on the stream stay as they are. -/
theorem point_fail {s : State T M A} {c : Call T M A} (hp : Point frame s)
    (hcall : s.call = some c) (hbroken : s.broken = false) (hpos : 0 < c.rest.length)
    (n : Nat) : Point frame { s.put c n with broken := true } := by
  cases hp with
  | free hfree => exact absurd (hcall.symm.trans hfree) (Option.some_ne_none c)
  | returning c' hcall' _ hrest =>
    obtain rfl := Option.some.inj (hcall.symm.trans hcall')
    rw [hrest] at hpos
    exact absurd hpos (Nat.lt_irrefl 0)
  | failed _ htrue => exact absurd (hbroken.symm.trans htrue) Bool.false_ne_true
  | writing c' piece hcall' _ hrest hframe hstream htaken hreturned =>
    obtain rfl := Option.some.inj (hcall.symm.trans hcall')
    rcases put_whole hframe hstream n with ⟨-, hwritten, hdrop, hframe', hstream'⟩ |
      ⟨-, hwritten, hstream'⟩
    · refine .failed (piece ++ c.rest.take n) rfl (.inr ⟨c.msg, _, hdrop, hframe'⟩) ?_ ?_ ?_
      · rw [hwritten]
        exact hstream'
      · rw [hwritten]
        exact ⟨_, htaken.symm⟩
      · rw [hwritten]
        exact ⟨[], by rw [List.append_nil]; exact hreturned⟩
    · refine .failed [] rfl (.inl rfl) ?_ ?_ ?_
      · rw [hwritten, List.append_nil]
        exact hstream'
      · rw [hwritten]
        exact ⟨[], by rw [List.append_nil]; exact htaken.symm⟩
      · rw [hwritten]
        exact ⟨_, congrArg (· ++ [(c.thread, c.msg)]) hreturned⟩

end

/-! ## Steps -/

variable [DecidableEq T] (frame : M → List A)

def step (s : State T M A) : Action T → Option (State T M A)
  | .lock t => match s.call, s.todo t with
    | none, m :: ms => some { s with
        todo := Function.update s.todo t ms
        call := some ⟨t, m, frame m⟩
        taken := s.taken ++ [(t, m)] }
    | _, _ => none
  | .put n => s.call.bind fun c =>
    if s.broken = false ∧ 0 < n ∧ n ≤ c.rest.length then some (s.put c n) else none
  | .fail n => s.call.bind fun c =>
    if s.broken = false ∧ 0 < c.rest.length ∧ n ≤ c.rest.length then
      some { s.put c n with broken := true }
    else none
  | .unlock => s.call.bind s.unlock

/-- Every thread writes its messages in its own order. -/
def InOrder (program : T → List M) (s : State T M A) : Prop :=
  ∀ t, ((s.taken.filter fun m => m.1 = t).map Prod.snd) ++ s.todo t = program t

structure Inv (program : T → List M) (s : State T M A) : Prop where
  order : InOrder program s
  point : Point frame s

theorem inv_init (program : T → List M) : Inv frame program (init program : State T M A) where
  order _ := rfl
  point := .free rfl rfl rfl rfl rfl

variable {frame} {program : T → List M}

theorem lock_cases {s s' : State T M A} {t : T} (h : step frame s (.lock t) = some s') :
    s.call = none ∧ ∃ m ms, s.todo t = m :: ms ∧ s' = { s with
      todo := Function.update s.todo t ms
      call := some ⟨t, m, frame m⟩
      taken := s.taken ++ [(t, m)] } := by
  simp only [step] at h
  split at h
  · next m ms hcall htodo => exact ⟨hcall, m, ms, htodo, (Option.some.inj h).symm⟩
  · cases h

theorem put_cases {s s' : State T M A} {n : Nat} (h : step frame s (.put n) = some s') :
    ∃ c, s.call = some c ∧ s.broken = false ∧ 0 < n ∧ n ≤ c.rest.length ∧ s' = s.put c n := by
  obtain ⟨c, hcall, h⟩ := Option.bind_eq_some_iff.mp h
  split at h
  · next hn => exact ⟨c, hcall, hn.1, hn.2.1, hn.2.2, (Option.some.inj h).symm⟩
  · cases h

theorem fail_cases {s s' : State T M A} {n : Nat} (h : step frame s (.fail n) = some s') :
    ∃ c, s.call = some c ∧ s.broken = false ∧ 0 < c.rest.length ∧ n ≤ c.rest.length ∧
      s' = { s.put c n with broken := true } := by
  obtain ⟨c, hcall, h⟩ := Option.bind_eq_some_iff.mp h
  split at h
  · next hn => exact ⟨c, hcall, hn.1, hn.2.1, hn.2.2, (Option.some.inj h).symm⟩
  · cases h

theorem unlock_cases {s s' : State T M A} (h : step frame s .unlock = some s') :
    ∃ c, s.call = some c ∧
      ((s.broken = true ∧ s' = { s with call := none }) ∨
        (s.broken = false ∧ c.rest = [] ∧
          s' = { s with call := none, returned := s.returned ++ [(c.thread, c.msg)] })) := by
  obtain ⟨c, hcall, h⟩ := Option.bind_eq_some_iff.mp h
  refine ⟨c, hcall, ?_⟩
  unfold State.unlock at h
  split at h
  · next hbroken => exact .inl ⟨hbroken, (Option.some.inj h).symm⟩
  · next hbroken =>
    split at h
    · next hrest => exact .inr ⟨eq_false_of_ne_true hbroken, hrest, (Option.some.inj h).symm⟩
    · cases h

theorem InOrder.lock {s : State T M A} (h : InOrder program s) {t : T} {m : M} {ms : List M}
    (htodo : s.todo t = m :: ms) (c : Call T M A) :
    InOrder program { s with
      todo := Function.update s.todo t ms, call := some c, taken := s.taken ++ [(t, m)] } := by
  intro u
  have hu := h u
  by_cases htu : t = u
  · subst htu
    rw [htodo] at hu
    simpa using hu
  · have hother : Function.update s.todo t ms u = s.todo u :=
      Function.update_of_ne (Ne.symm htu) _ _
    simpa [htu, hother] using hu

theorem point_unlock {s s' : State T M A} (hp : Point frame s)
    (h : step frame s .unlock = some s') : Point frame s' := by
  obtain ⟨c, hcall, ⟨hbroken, rfl⟩ | ⟨hbroken, hrest, rfl⟩⟩ := unlock_cases h
  · cases hp with
    | free _ hfalse => exact absurd (hfalse.symm.trans hbroken) Bool.false_ne_true
    | writing _ _ _ hfalse => exact absurd (hfalse.symm.trans hbroken) Bool.false_ne_true
    | returning _ _ hfalse => exact absurd (hfalse.symm.trans hbroken) Bool.false_ne_true
    | failed piece hbroken htorn hstream hwritten hreturned =>
      exact .failed piece hbroken htorn hstream hwritten hreturned
  · cases hp with
    | free hfree => exact absurd (hcall.symm.trans hfree) (Option.some_ne_none c)
    | writing c' _ hcall' _ hne =>
      obtain rfl := Option.some.inj (hcall.symm.trans hcall')
      exact absurd hrest hne
    | returning c' hcall' _ _ hstream hwritten hreturned =>
      obtain rfl := Option.some.inj (hcall.symm.trans hcall')
      exact .free rfl hbroken hstream hwritten hreturned.symm
    | failed _ htrue => exact absurd (hbroken.symm.trans htrue) Bool.false_ne_true

theorem point_lock {s s' : State T M A} {t : T} (hne : ∀ m, frame m ≠ []) (hp : Point frame s)
    (h : step frame s (.lock t) = some s') : Point frame s' := by
  obtain ⟨hcall, m, ms, -, rfl⟩ := lock_cases h
  cases hp with
  | free _ hbroken hstream hwritten hreturned =>
    refine .writing ⟨t, m, frame m⟩ [] rfl hbroken (hne m) rfl ?_ ?_ hreturned
    · rw [List.append_nil]
      exact hstream
    · exact congrArg (· ++ [(t, m)]) hwritten.symm
  | writing _ _ hcall' => exact absurd (hcall'.symm.trans hcall) (Option.some_ne_none _)
  | returning _ hcall' => exact absurd (hcall'.symm.trans hcall) (Option.some_ne_none _)
  | failed piece hbroken htorn hstream hwritten hreturned =>
    exact .failed piece hbroken htorn hstream (hwritten.trans (List.prefix_append _ _)) hreturned

theorem inv_step (hne : ∀ m, frame m ≠ []) {s s' : State T M A} {a : Action T}
    (hs : Inv frame program s) (h : step frame s a = some s') : Inv frame program s' := by
  cases a with
  | lock t =>
    refine ⟨?_, point_lock hne hs.point h⟩
    obtain ⟨-, m, ms, htodo, rfl⟩ := lock_cases h
    exact hs.order.lock htodo _
  | put n =>
    obtain ⟨c, hcall, hbroken, hpos, hn, rfl⟩ := put_cases h
    exact ⟨hs.order, point_put hs.point hcall hbroken hpos hn⟩
  | fail n =>
    obtain ⟨c, hcall, hbroken, hpos, hn, rfl⟩ := fail_cases h
    exact ⟨hs.order, point_fail hs.point hcall hbroken hpos n⟩
  | unlock =>
    refine ⟨?_, point_unlock hs.point h⟩
    obtain ⟨c, -, ⟨-, rfl⟩ | ⟨-, -, rfl⟩⟩ := unlock_cases h
    · exact hs.order
    · exact hs.order

theorem inv_run (hne : ∀ m, frame m ≠ []) {as : List (Action T)} {s : State T M A}
    (hrun : run (step frame) (init program) as = some s) : Inv frame program s :=
  run_invariant (fun _ _ _ hs h => inv_step hne hs h) (inv_init frame program) hrun

/-! ## What is on the stream -/

theorem Inv.stream {s : State T M A} (h : Inv frame program s) :
    ∃ piece, Torn frame piece ∧ s.stream = whole frame s.written ++ piece := by
  cases h.point with
  | free _ _ hstream => exact ⟨[], .inl rfl, by rw [List.append_nil]; exact hstream⟩
  | writing c piece _ _ hrest hframe hstream =>
    exact ⟨piece, .inr ⟨c.msg, c.rest, hrest, hframe⟩, hstream⟩
  | returning _ _ _ _ hstream => exact ⟨[], .inl rfl, by rw [List.append_nil]; exact hstream⟩
  | failed piece _ htorn hstream => exact ⟨piece, htorn, hstream⟩

theorem Inv.written_prefix {s : State T M A} (h : Inv frame program s) : s.written <+: s.taken := by
  cases h.point with
  | free _ _ _ hwritten => exact hwritten ▸ List.prefix_rfl
  | writing c _ _ _ _ _ _ htaken => exact ⟨_, htaken.symm⟩
  | returning _ _ _ _ _ hwritten => exact hwritten ▸ List.prefix_rfl
  | failed _ _ _ _ hwritten => exact hwritten

theorem Inv.returned_prefix {s : State T M A} (h : Inv frame program s) :
    s.returned <+: s.written := by
  cases h.point with
  | free _ _ _ _ hreturned => exact hreturned ▸ List.prefix_rfl
  | writing _ _ _ _ _ _ _ _ hreturned => exact hreturned ▸ List.prefix_rfl
  | returning _ _ _ _ _ _ hreturned => exact ⟨_, hreturned.symm⟩
  | failed _ _ _ _ _ hreturned => exact hreturned

end Serial
