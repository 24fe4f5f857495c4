import Centralisd.Master.Server

/-!
# Centralisd — the node registry over whole runs

How the registry of connected slaves follows the handlers. `Inv` holds in
every reachable state; `RegistryCorrect` is what the registry is for: an ID
is mapped to a connection exactly when that connection is the latest one
registered under the ID and its handler has not returned, so that a live
slave is found by `sendCommandToNodeWait` and listed.

`unregisterNode` removes by ID. Hence `RegistryCorrect` survives a step
exactly when the step is not the removal of someone else's entry
(`registryCorrect_step_iff`), and a run keeps it throughout exactly when
none of its removals is (`registryCorrect_iff_unregistersOwn`).
-/

namespace Centralisd.Master

open KeyedTable

variable {C : Crypto} {allowedNodes : Finset String}

/-! ## Handlers that hold a registration -/

/-- The credentials of a handler between `registerNode` and the deferred
`unregisterNode`. -/
def Phase.active : Phase → Option Credentials
  | .serving cr => some cr
  | .leaving cr => some cr
  | _ => none

/-- The credentials of a registered connection. -/
def State.session (s : State) (c : ConnID) : Option Credentials := (s.phase c).bind Phase.active

/-- The ID a connection is registered under, while its handler runs. -/
def State.held (s : State) (c : ConnID) : Option String :=
  (s.session c).map fun cr => cr.hello.id

/-- The handler of a connection has returned. -/
def State.Returned (s : State) (c : ConnID) : Prop := s.phase c = some .returned

theorem State.not_returned_of_held {s : State} {c : ConnID} {k : String}
    (h : s.held c = some k) : ¬ s.Returned c := by
  intro hr
  rw [State.held, State.session, hr] at h
  exact absurd h (by simp [Phase.active])

theorem Moves.active {c : ConnID} {a : Action} {ph : Option Phase} {p : Phase}
    (hm : Moves C allowedNodes c a ph p) : p.active = ph.bind Phase.active := by
  cases hm with
  | reject h ha =>
    rename_i q
    cases q with
    | serving cr => exact absurd rfl (h cr).2.1
    | leaving cr => exact absurd rfl (h cr).2.2
    | _ => rfl
  | _ => rfl

theorem Moves.returned {c : ConnID} {a : Action} {ph : Option Phase} {p : Phase}
    (hm : Moves C allowedNodes c a ph p) (hph : ph = some .returned) : p = .returned := by
  cases hm <;> simp_all

theorem Moves.ne_unregisterNode {c c' : ConnID} {a : Action} {ph : Option Phase} {p : Phase}
    (hm : Moves C allowedNodes c a ph p) : a ≠ .unregisterNode c' := by
  cases hm with
  | reject h ha =>
    rintro rfl
    exact ha
  | _ => simp

theorem session_move {s : State} {c : ConnID} {a : Action} {p : Phase} (out : List Packet)
    (hm : Moves C allowedNodes c a (s.phase c) p) (c' : ConnID) :
    (s.move c p out).session c' = s.session c' := by
  by_cases hc : c' = c
  · subst hc
    rw [State.session, phase_move_self, Option.bind_some, hm.active, State.session]
  · rw [State.session, phase_move_ne _ _ _ hc, State.session]

theorem held_move {s : State} {c : ConnID} {a : Action} {p : Phase} (out : List Packet)
    (hm : Moves C allowedNodes c a (s.phase c) p) (c' : ConnID) :
    (s.move c p out).held c' = s.held c' := by
  rw [State.held, session_move out hm c', State.held]

theorem returned_move {s : State} {c : ConnID} {a : Action} {p : Phase} (out : List Packet)
    (hm : Moves C allowedNodes c a (s.phase c) p) (c' : ConnID) (h : s.Returned c') :
    (s.move c p out).Returned c' := by
  by_cases hc : c' = c
  · subst hc
    rw [State.Returned, phase_move_self, hm.returned h]
  · rw [State.Returned, phase_move_ne _ _ _ hc]
    exact h

/-! ## The invariant of all runs -/

structure Inv (C : Crypto) (allowedNodes : Finset String) (s : State) : Prop where
  phase : ∀ c p, s.phase c = some p → PhaseOK C allowedNodes p
  tracks : Tracks s.held s.Returned s.nodes

theorem inv_init : Inv C allowedNodes init where
  phase := fun _ _ h => absurd h (by simp [init])
  tracks := tracks_empty fun _ => rfl

/-- The phases after a move, when the moved handler's is fine. -/
theorem phaseOK_move {s : State} {c : ConnID} {p : Phase} (out : List Packet)
    (hs : ∀ c p, s.phase c = some p → PhaseOK C allowedNodes p) (hp : PhaseOK C allowedNodes p) :
    ∀ c' q, (s.move c p out).phase c' = some q → PhaseOK C allowedNodes q := by
  intro c' q hq
  by_cases hc : c' = c
  · subst hc
    rw [phase_move_self, Option.some.injEq] at hq
    exact hq ▸ hp
  · rw [phase_move_ne _ _ _ hc] at hq
    exact hs c' q hq

/-- The ID a leaving handler removes is its own, and never empty. -/
theorem Inv.unregisterNode_eq {s : State} (hs : Inv C allowedNodes s) {c : ConnID}
    {cr : Credentials} (hc : s.phase c = some (.leaving cr)) :
    unregisterNode s.nodes cr.hello.id = s.nodes.unregister cr.hello.id := by
  have hok : CredentialsOK C allowedNodes cr := hs.phase c _ hc
  rw [unregisterNode, if_neg hok.id_ne_empty]

theorem inv_step {s t : State} {a : Action} (hs : Inv C allowedNodes s)
    (h : step C allowedNodes s a = some t) : Inv C allowedNodes t := by
  cases step_cases h with
  | move hm =>
    exact ⟨phaseOK_move _ hs.phase (hm.phaseOK (hs.phase _)),
      hs.tracks.keep (held_move _ hm) (returned_move _ hm)
        fun _ _ => State.not_returned_of_held⟩
  | register hph hid =>
    rename_i c cr
    -- before the step the handler holds nothing, after it exactly its own ID
    refine ⟨phaseOK_move [] hs.phase (hs.phase c (.verified cr) hph),
      hs.tracks.register (n := c) ?_ ?_ ?_ ?_ ?_ fun _ _ => State.not_returned_of_held⟩
    · simp [State.held, State.session, hph, Phase.active]
    · simp [State.Returned, hph]
    · simp [State.held, State.session, State.move, Phase.active]
    · intro c' hc'
      simp [State.held, State.session, State.move, hc']
    · intro c' hc'
      simp [State.Returned, State.move, hc']
  | answered => exact hs
  | unregister hph =>
    rename_i c cr
    rw [hs.unregisterNode_eq hph]
    -- the handler gives up its ID and returns; the others hold what they held
    refine ⟨phaseOK_move [] hs.phase trivial, hs.tracks.unregister (n := c) ?_ ?_ ?_ ?_ ?_
      fun _ _ => State.not_returned_of_held⟩
    · simp [State.held, State.session, hph, Phase.active]
    · simp [State.Returned, State.move]
    · simp [State.held, State.session, State.move, Phase.active]
    · intro c' hc'
      simp [State.held, State.session, State.move, hc']
    · intro c' hc'
      simp [State.Returned, State.move, hc']

/-- The invariant holds in every reachable state. -/
theorem inv_run {s : State} {as : List Action}
    (h : Machine.run (step C allowedNodes) init as = some s) : Inv C allowedNodes s :=
  Machine.run_invariant (fun _ _ _ hs hst => inv_step hs hst) inv_init h

theorem Inv.session_of_owner {s : State} (hs : Inv C allowedNodes s) {i : String} {n : ConnID}
    (h : s.nodes.owner i = some n) : ∃ cr, s.session n = some cr ∧ cr.hello.id = i :=
  Option.map_eq_some_iff.mp (hs.tracks.owner i n h)

theorem Inv.credentialsOK {s : State} (hs : Inv C allowedNodes s) {n : ConnID} {cr : Credentials}
    (h : s.session n = some cr) : CredentialsOK C allowedNodes cr := by
  obtain ⟨p, hp, hcr⟩ := Option.bind_eq_some_iff.mp h
  cases p <;> simp only [Phase.active, reduceCtorEq, Option.some.injEq] at hcr
  all_goals
    subst hcr
    exact hs.phase n _ hp

/-! ## What the registry is for -/

/-- An ID is mapped to a connection exactly when the connection is the latest
registered under the ID and its handler has not returned; so a slave with a
live latest connection is found and listed. -/
def RegistryCorrect (s : State) : Prop :=
  (∀ i n, s.nodes.owner i = some n ↔ s.nodes.latest i = some n ∧ ¬ s.Returned n) ∧
  (∀ i n, s.nodes.latest i = some n → ¬ s.Returned n →
    lookupNode s.nodes i ≠ .error "node not connected" ∧ i ∈ listConnectedNodeIDs s.nodes)

/-- A removal finds no other connection under the handler's ID. -/
def UnregistersOwn (s : State) : Action → Prop
  | .unregisterNode c => ∀ cr, s.phase c = some (.leaving cr) →
      ∀ n, s.nodes.owner cr.hello.id = some n → n = c
  | _ => True

theorem lookupNode_of_owner {nodes : Registry} {i : String} {n : ConnID}
    (h : nodes.owner i = some n) : lookupNode nodes i ≠ .error "node not connected" := by
  unfold lookupNode
  split
  · simp
  · rw [h]
    simp

theorem mem_listConnectedNodeIDs {nodes : Registry} {i : String} {n : ConnID}
    (h : nodes.owner i = some n) : i ∈ listConnectedNodeIDs nodes := by
  show i ∈ nodes.table
  rw [← AList.lookup_isSome, show nodes.table.lookup i = some n from h]
  rfl

/-- The consequences for lookup and listing follow from the exact table. -/
theorem registryCorrect_iff_exact (s : State) :
    RegistryCorrect s ↔ Exact s.Returned s.nodes := by
  constructor
  · exact fun h => h.1
  · intro h
    refine ⟨h, fun i n hl hn => ?_⟩
    have howner := (h i n).mpr ⟨hl, hn⟩
    exact ⟨lookupNode_of_owner howner, mem_listConnectedNodeIDs howner⟩

/-- A step keeps the registry correct exactly when it does not remove the
entry of another connection. -/
theorem registryCorrect_step_iff {s t : State} {a : Action} (hs : Inv C allowedNodes s)
    (hreg : RegistryCorrect s) (h : step C allowedNodes s a = some t) :
    RegistryCorrect t ↔ UnregistersOwn s a := by
  rw [registryCorrect_iff_exact] at hreg ⊢
  cases step_cases h with
  | move hm =>
    refine ⟨fun _ => ?_, fun _ => hreg.keep hs.tracks (held_move _ hm) (returned_move _ hm)
      fun _ _ => State.not_returned_of_held⟩
    -- a move that leaves the registry alone is no removal
    cases a with
    | unregisterNode c' => exact absurd rfl hm.ne_unregisterNode
    | _ => trivial
  | register hph hid =>
    rename_i c cr
    refine ⟨fun _ => trivial, fun _ => hreg.register hs.tracks (n := c) ?_ ?_ ?_ ?_⟩
    · simp [State.held, State.session, hph, Phase.active]
    · simp [State.Returned, hph]
    · intro c' hc'
      simp [State.Returned, State.move, hc']
    · simp [State.Returned, State.move]
  | answered => exact ⟨fun _ => trivial, fun _ => hreg⟩
  | unregister hph =>
    rename_i c cr
    have hheld : s.held c = some cr.hello.id := by simp [State.held, State.session, hph, Phase.active]
    rw [hs.unregisterNode_eq hph]
    -- the removal keeps the table exact iff the entry removed is the handler's
    rw [exact_unregister_iff hreg hs.tracks hheld]
    · constructor
      · intro hown cr' hc'
        rw [hph, Option.some.injEq, Phase.leaving.injEq] at hc'
        exact hc' ▸ hown
      · exact fun hown => hown cr hph
    · intro c' hc'
      simp [State.Returned, State.move, hc']
    · simp [State.Returned, State.move]

/-- **The registry over whole runs.** In every run, whatever the clients do
and however the handlers interleave, the registry is correct in every state
exactly when no handler's deferred `unregisterNode` finds another
connection under its ID. -/
theorem registryCorrect_iff_unregistersOwn (C : Crypto) (allowedNodes : Finset String)
    (as : List Action) (s : State)
    (hrun : Machine.run (step C allowedNodes) init as = some s) :
    Machine.Holds (step C allowedNodes) RegistryCorrect init as ↔
      Machine.Meets (step C allowedNodes) UnregistersOwn init as := by
  refine Machine.holds_iff_meets (J := Inv C allowedNodes) (fun _ _ _ hs h => inv_step hs h)
    (fun _ _ _ hs hreg h => registryCorrect_step_iff hs hreg h) inv_init ?_ hrun
  rw [registryCorrect_iff_exact]
  exact exact_empty _

/-! ## A reconnect that overlaps the old handler -/

/-- The slave connects, loses the connection, reconnects while the old
handler is still waiting for its heartbeat, and then the old handler
leaves. -/
def reconnectActions : List Action :=
  (connectActions Crypto.transparent demoKey demoKey 0 (List.replicate 64 0) ++
    connectActions Crypto.transparent demoKey demoKey 1 (List.replicate 64 1)) ++
  [.heartbeat 0 false, .unregisterNode 0]

/-- A handler whose heartbeat fails leaves, and its ID with it. -/
theorem run_leave {s : State} {c : ConnID} {cr : Credentials} (hc : s.phase c = some (.serving cr)) :
    ∃ t, Machine.run (step C allowedNodes) s [.heartbeat c false, .unregisterNode c] = some t ∧
      (∀ c', c' ≠ c → t.phase c' = s.phase c') ∧
      t.nodes = unregisterNode s.nodes cr.hello.id := by
  simp only [Machine.run_cons, Machine.run_nil, step, hc, Option.bind_some, onHeartbeat,
    phase_move_self, onUnregister, Bool.false_eq_true, if_false, nodes_move]
  refine ⟨_, rfl, ?_, rfl⟩
  intro c' hc'
  simp only [phase_move_ne _ _ _ hc']

/-- Two connections of the slave, both registered, one after the other. -/
theorem run_two_connections :
    ∃ t, Machine.run (step Crypto.transparent ∅) init
        (connectActions Crypto.transparent demoKey demoKey 0 (List.replicate 64 0) ++
          connectActions Crypto.transparent demoKey demoKey 1 (List.replicate 64 1)) = some t ∧
      t.phase 0 = some (.serving
        (connectCredentials Crypto.transparent demoKey demoKey (List.replicate 64 0))) ∧
      t.phase 1 = some (.serving
        (connectCredentials Crypto.transparent demoKey demoKey (List.replicate 64 1))) ∧
      t.nodes = ((KeyedTable.empty.register (keyID Crypto.transparent demoKey) 0).register
        (keyID Crypto.transparent demoKey) 1) := by
  have hadmits : admitsNode ∅ (keyID Crypto.transparent demoKey) = true := by
    simp [admitsNode]
  obtain ⟨s, hs, hs0, hsne, hsn⟩ :=
    run_connectActions (C := Crypto.transparent) (s := init) (c := 0) rfl
      (by decide) (by decide) (List.length_replicate ..) hadmits (Crypto.transparent_verify ..)
  obtain ⟨t, ht, ht1, htne, htn⟩ :=
    run_connectActions (C := Crypto.transparent) (s := s) (c := 1) (hsne 1 (by decide))
      (by decide) (by decide) (List.length_replicate ..) hadmits (Crypto.transparent_verify ..)
  refine ⟨t, ?_, (htne 0 (by decide)).trans hs0, ht1, ?_⟩
  · rw [Machine.run_append, hs]
    exact ht
  · rw [htn, hsn]
    rfl

theorem run_reconnectActions :
    ∃ s, Machine.run (step Crypto.transparent ∅) init reconnectActions = some s ∧
      s.phase 1 = some (.serving
        (connectCredentials Crypto.transparent demoKey demoKey (List.replicate 64 1))) ∧
      s.nodes = ((KeyedTable.empty.register (keyID Crypto.transparent demoKey) 0).register
        (keyID Crypto.transparent demoKey) 1).unregister (keyID Crypto.transparent demoKey) := by
  obtain ⟨t, ht, ht0, ht1, htn⟩ := run_two_connections
  -- connection 0 leaves with the ID that connection 1 has taken over
  obtain ⟨s, hs, hsne, hsn⟩ := run_leave (C := Crypto.transparent) ht0
  refine ⟨s, ?_, (hsne 1 (by decide)).trans ht1, ?_⟩
  · rw [reconnectActions, Machine.run_append, ht]
    exact hs
  · rw [hsn, htn]
    exact if_neg (keyID_ne_empty _ _)

/-- After the reconnect the newer connection is the latest and alive, but
the slave's ID is gone from the registry. -/
theorem reconnect_not_registryCorrect :
    ∃ s, Machine.run (step Crypto.transparent ∅) init reconnectActions = some s ∧
      s.nodes.latest (keyID Crypto.transparent demoKey) = some 1 ∧ ¬ s.Returned 1 ∧
      lookupNode s.nodes (keyID Crypto.transparent demoKey) = .error "node not connected" ∧
      ¬ RegistryCorrect s := by
  obtain ⟨s, hs, hs1, hsn⟩ := run_reconnectActions
  have hid : keyID Crypto.transparent demoKey ≠ "" := keyID_ne_empty _ _
  have hlatest : s.nodes.latest (keyID Crypto.transparent demoKey) = some 1 := by
    rw [hsn, latest_unregister, latest_register]
  have hlive : ¬ s.Returned 1 := by
    rw [State.Returned, hs1]
    simp
  have hgone : s.nodes.owner (keyID Crypto.transparent demoKey) = none := by
    rw [hsn, owner_unregister]
  refine ⟨s, hs, hlatest, hlive, ?_, ?_⟩
  · rw [lookupNode, if_neg hid, hgone]
  · intro hcorrect
    have := (hcorrect.1 _ 1).mpr ⟨hlatest, hlive⟩
    rw [hgone] at this
    exact absurd this (by simp)

/-- The exact condition, on the run with the reconnect. -/
theorem reconnect_registryCorrect_iff :
    Machine.Holds (step Crypto.transparent ∅) RegistryCorrect init reconnectActions ↔
      Machine.Meets (step Crypto.transparent ∅) UnregistersOwn init reconnectActions := by
  obtain ⟨s, hs, -⟩ := run_reconnectActions
  exact registryCorrect_iff_unregistersOwn _ _ _ s hs

end Centralisd.Master
