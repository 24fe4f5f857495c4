import Mathlib.Logic.Function.Basic
import Mathlib.Data.List.NodupEquivFin
import Centralisd.Lib.Machine

/-!
# Numbered requests to serial servers

Requests are numbered. Each is written once, on one connection, among other
things that are no requests. At the other end of a connection one server
takes what arrives, one thing at a time, and either drops it or uses it. The
state keeps numbers only: what is in flight on each connection, what each
server holds, and what has been used, in order.

A request is a token: a step moves it from its writer to a queue, to a
server, to the list of uses, or loses it, and never copies it.

* `Inv` — a request is where its writer put it, and at most one of the
  places holds it;
* `inv_step`, `Inv.use_unique` — hence no request is ever used twice.
-/

namespace Relay

/-- A value at two places occurs twice. -/
theorem two_le_count {α : Type} [BEq α] [LawfulBEq α] {xs : List α} {x : α} {i j : Nat} (hlt : i < j)
    (hi : xs[i]? = some x) (hj : xs[j]? = some x) : 2 ≤ xs.count x := by
  obtain ⟨hi', hx⟩ := List.getElem?_eq_some_iff.mp hi
  obtain ⟨hj', hx'⟩ := List.getElem?_eq_some_iff.mp hj
  have hdup : List.Duplicate x xs := List.duplicate_iff_exists_distinct_get.mpr
    ⟨⟨i, hi'⟩, ⟨j, hj'⟩, hlt, hx.symm, hx'.symm⟩
  have hsub : (List.replicate 2 x).Sublist xs := List.duplicate_iff_sublist.mp hdup
  exact List.replicate_sublist_iff.mp hsub

variable {ν : Type}

structure State (ν : Type) where
  /-- the connection a request was written on, `none` before the write -/
  route : Nat → Option ν
  /-- in flight, next first; what is no request has no number -/
  queue : ν → List (Option Nat)
  /-- the request a server has taken and not yet used -/
  held : ν → Option Nat
  /-- what was used, a use that serves no request having no number -/
  uses : List (Option Nat)

inductive Action (ν : Type) where
  /-- a write, which may be lost -/
  | write (k : Nat) (c : ν) (arrives : Bool)
  /-- something that is no request is put on the connection -/
  | put (c : ν)
  /-- the server takes what is next, and keeps it or not -/
  | take (c : ν) (keep : Bool)
  | drop (c : ν)
  | use (c : ν)
  /-- a use that serves no request -/
  | useOther

/-- How many of the places that can hold request `k`, written on `c`, do. -/
def State.tokens (s : State ν) (c : ν) (k : Nat) : Nat :=
  (s.queue c).count (some k) + [s.held c].count (some k) + s.uses.count (some k)

structure Inv (s : State ν) : Prop where
  queue : ∀ c k, some k ∈ s.queue c → s.route k = some c
  held : ∀ c k, s.held c = some k → s.route k = some c
  uses : ∀ k, some k ∈ s.uses → s.route k ≠ none
  tokens : ∀ c k, s.route k = some c → s.tokens c k ≤ 1

variable [DecidableEq ν]

def step (s : State ν) : Action ν → Option (State ν)
  | .write k c arrives => match s.route k with
    | some _ => none
    | none => some { s with
        route := Function.update s.route k (some c)
        queue := if arrives then Function.update s.queue c (s.queue c ++ [some k]) else s.queue }
  | .put c => some { s with queue := Function.update s.queue c (s.queue c ++ [none]) }
  | .take c keep => match s.held c, s.queue c with
    | none, r :: rest => some { s with
        queue := Function.update s.queue c rest
        held := Function.update s.held c (if keep then r else none) }
    | _, _ => none
  | .drop c => some { s with held := Function.update s.held c none }
  | .use c => some { s with
      held := Function.update s.held c none
      uses := s.uses ++ [s.held c] }
  | .useOther => some { s with uses := s.uses ++ [none] }

-- ---------------------------------------------------------------------------
-- No step copies a request
-- ---------------------------------------------------------------------------

omit [DecidableEq ν] in
/-- A step that writes nothing keeps the invariant when requests only move to
places of their own connection and no place gains a copy. -/
theorem Inv.moved {s t : State ν} (hs : Inv s) (hroute : t.route = s.route)
    (hqueue : ∀ c k, some k ∈ t.queue c → some k ∈ s.queue c)
    (hheld : ∀ c k, t.held c = some k → s.held c = some k ∨ some k ∈ s.queue c)
    (huses : ∀ k, some k ∈ t.uses → some k ∈ s.uses ∨ ∃ c, s.held c = some k)
    (htokens : ∀ c k, s.route k = some c → t.tokens c k ≤ s.tokens c k) : Inv t where
  queue := by
    intro c k h
    rw [hroute]
    exact hs.queue c k (hqueue c k h)
  held := by
    intro c k h
    rw [hroute]
    rcases hheld c k h with hold | hqueued
    · exact hs.held c k hold
    · exact hs.queue c k hqueued
  uses := by
    intro k h
    rw [hroute]
    rcases huses k h with hold | ⟨c, hc⟩
    · exact hs.uses k hold
    · rw [hs.held c k hc]
      exact Option.some_ne_none c
  tokens := by
    intro c k h
    rw [hroute] at h
    exact le_trans (htokens c k h) (hs.tokens c k h)

omit [DecidableEq ν] in
/-- A request that was not written is nowhere. -/
theorem Inv.tokens_eq_zero {s : State ν} (hs : Inv s) {k : Nat} (h : s.route k = none) (c : ν) :
    s.tokens c k = 0 := by
  have hqueue : (s.queue c).count (some k) = 0 :=
    List.count_eq_zero.mpr fun hm => absurd (h.symm.trans (hs.queue c k hm)) (by simp)
  have hheld : [s.held c].count (some k) = 0 := by
    refine List.count_eq_zero.mpr fun hm => ?_
    have hm' := hs.held c k (List.mem_singleton.mp hm).symm
    exact absurd (h.symm.trans hm') (by simp)
  have huses : s.uses.count (some k) = 0 :=
    List.count_eq_zero.mpr fun hm => hs.uses k hm h
  rw [State.tokens, hqueue, hheld, huses]

theorem inv_write {s : State ν} (hs : Inv s) {k : Nat} (hk : s.route k = none) (c : ν)
    (arrives : Bool) :
    Inv { s with
      route := Function.update s.route k (some c)
      queue := if arrives then Function.update s.queue c (s.queue c ++ [some k])
        else s.queue } := by
  -- a request that is somewhere has been written, so it is not `k`
  have hold : ∀ k' c', s.route k' = some c' → Function.update s.route k (some c) k' = some c' := by
    intro k' c' h
    have hne : k' ≠ k := by
      rintro rfl
      exact absurd (hk.symm.trans h) (by simp)
    rwa [Function.update_of_ne hne]
  refine ⟨?_, fun c' k' h => hold k' c' (hs.held c' k' h), ?_, ?_⟩
  · -- queue
    intro c' k' h
    cases arrives with
    | false => exact hold k' c' (hs.queue c' k' h)
    | true =>
      by_cases hc : c' = c
      · subst hc
        simp only [if_true, Function.update_self, List.mem_append, List.mem_singleton,
          Option.some.injEq] at h
        rcases h with h | rfl
        · exact hold k' c' (hs.queue c' k' h)
        · exact Function.update_self ..
      · simp only [if_true, Function.update_of_ne hc] at h
        exact hold k' c' (hs.queue c' k' h)
  · -- uses
    intro k' h
    have hne : k' ≠ k := by
      rintro rfl
      exact hs.uses k' h hk
    show Function.update s.route k (some c) k' ≠ none
    rw [Function.update_of_ne hne]
    exact hs.uses k' h
  · -- tokens
    intro c' k' h
    by_cases hk' : k' = k
    · -- the new request: it was nowhere, and is now in its queue or lost
      subst hk'
      simp only [Function.update_self, Option.some.injEq] at h
      subst h
      have hzero := hs.tokens_eq_zero hk c
      unfold State.tokens at hzero ⊢
      cases arrives with
      | false =>
        simp only [Bool.false_eq_true, if_false]
        omega
      | true =>
        simp only [if_true, Function.update_self, List.count_append, List.count_singleton_self]
        omega
    · -- another request: nothing of it has moved
      simp only [Function.update_of_ne hk'] at h
      refine le_trans (le_of_eq ?_) (hs.tokens c' k' h)
      unfold State.tokens
      cases arrives with
      | false => rfl
      | true =>
        by_cases hc : c' = c
        · subst hc
          have hcount : [some k].count (some k') = 0 := by
            simpa [List.count_singleton] using Ne.symm hk'
          simp only [if_true, Function.update_self, List.count_append, hcount, Nat.add_zero]
        · simp only [if_true, Function.update_of_ne hc]

theorem inv_put {s : State ν} (hs : Inv s) (c : ν) :
    Inv { s with queue := Function.update s.queue c (s.queue c ++ [none]) } := by
  refine hs.moved rfl ?_ (fun _ _ h => .inl h) (fun _ h => .inl h) ?_
  · intro c' k h
    by_cases hc : c' = c
    · subst hc
      simpa using h
    · simpa [Function.update_of_ne hc] using h
  · intro c' k _
    by_cases hc : c' = c
    · subst hc
      simp [State.tokens]
    · simp [State.tokens, Function.update_of_ne hc]

theorem inv_take {s : State ν} (hs : Inv s) {c : ν} {r : Option Nat} {rest : List (Option Nat)}
    (hidle : s.held c = none) (hqueue : s.queue c = r :: rest) (keep : Bool) :
    Inv { s with
      queue := Function.update s.queue c rest
      held := Function.update s.held c (if keep then r else none) } := by
  refine hs.moved rfl ?_ ?_ (fun _ h => .inl h) ?_
  · intro c' k h
    by_cases hc : c' = c
    · subst hc
      simp only [Function.update_self] at h
      rw [hqueue]
      exact List.mem_cons_of_mem r h
    · simpa [Function.update_of_ne hc] using h
  · intro c' k h
    by_cases hc : c' = c
    · subst hc
      cases keep with
      | false => simp at h
      | true =>
        simp only [if_true, Function.update_self] at h
        rw [hqueue, h]
        exact .inr List.mem_cons_self
    · simp only [Function.update_of_ne hc] at h
      exact .inl h
  · intro c' k _
    by_cases hc : c' = c
    · -- what leaves the queue is what the server holds
      subst hc
      simp only [State.tokens, Function.update_self, hidle, hqueue]
      cases keep with
      | false =>
        simp only [Bool.false_eq_true, if_false, List.count_cons]
        omega
      | true =>
        simp only [if_true, List.count_cons, List.count_nil]
        omega
    · simp [State.tokens, Function.update_of_ne hc]

theorem inv_drop {s : State ν} (hs : Inv s) (c : ν) :
    Inv { s with held := Function.update s.held c none } := by
  refine hs.moved rfl (fun _ _ h => h) ?_ (fun _ h => .inl h) ?_
  · intro c' k h
    by_cases hc : c' = c
    · subst hc
      simp at h
    · simp only [Function.update_of_ne hc] at h
      exact .inl h
  · intro c' k _
    by_cases hc : c' = c
    · subst hc
      simp [State.tokens]
    · simp [State.tokens, Function.update_of_ne hc]

theorem inv_use {s : State ν} (hs : Inv s) (c : ν) :
    Inv { s with
      held := Function.update s.held c none
      uses := s.uses ++ [s.held c] } := by
  refine hs.moved rfl (fun _ _ h => h) ?_ ?_ ?_
  · intro c' k h
    by_cases hc : c' = c
    · subst hc
      simp at h
    · simp only [Function.update_of_ne hc] at h
      exact .inl h
  · intro k h
    rcases List.mem_append.mp h with hold | hnew
    · exact .inl hold
    · exact .inr ⟨c, (List.mem_singleton.mp hnew).symm⟩
  · intro c' k hroute
    by_cases hc : c' = c
    · -- the server's request becomes a use
      subst hc
      simp only [State.tokens, Function.update_self, List.count_append, List.count_cons,
        List.count_nil]
      simp only [reduceCtorEq, beq_iff_eq, if_false]
      omega
    · -- the request of another connection is not the one used
      have hne : s.held c ≠ some k := fun h =>
        hc (Option.some.inj (hroute.symm.trans (hs.held c k h)))
      have hcount : [s.held c].count (some k) = 0 :=
        List.count_eq_zero.mpr fun h => hne (List.mem_singleton.mp h).symm
      simp only [State.tokens, Function.update_of_ne hc, List.count_append, hcount]
      omega

omit [DecidableEq ν] in
theorem inv_useOther {s : State ν} (hs : Inv s) : Inv { s with uses := s.uses ++ [none] } := by
  refine hs.moved rfl (fun _ _ h => h) (fun _ _ h => .inl h) ?_ ?_
  · intro k h
    exact .inl (by simpa using h)
  · intro c k _
    simp [State.tokens]

theorem inv_step {s t : State ν} {a : Action ν} (hs : Inv s) (h : step s a = some t) : Inv t := by
  cases a with
  | write k c arrives =>
    simp only [step] at h
    split at h
    · cases h
    · next hk =>
      cases h
      exact inv_write hs hk c arrives
  | put c =>
    cases h
    exact inv_put hs c
  | take c keep =>
    simp only [step] at h
    split at h
    · next r rest hidle hqueue =>
      cases h
      exact inv_take hs hidle hqueue keep
    · cases h
  | drop c =>
    cases h
    exact inv_drop hs c
  | use c =>
    cases h
    exact inv_use hs c
  | useOther =>
    cases h
    exact inv_useOther hs

omit [DecidableEq ν] in
/-- No request is used twice. -/
theorem Inv.use_unique {s : State ν} (hs : Inv s) {k u u' : Nat} (hu : s.uses[u]? = some (some k))
    (hu' : s.uses[u']? = some (some k)) : u = u' := by
  obtain ⟨c, hc⟩ := Option.ne_none_iff_exists'.mp (hs.uses k (List.mem_of_getElem? hu))
  -- two places in `uses` would be two tokens
  have hcount : s.uses.count (some k) ≤ 1 := by
    have := hs.tokens c k hc
    unfold State.tokens at this
    omega
  rcases lt_trichotomy u u' with hlt | heq | hlt
  · have := two_le_count hlt hu hu'
    omega
  · exact heq
  · have := two_le_count hlt hu' hu
    omega

end Relay
