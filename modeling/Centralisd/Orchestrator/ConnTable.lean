import Centralisd.Orchestrator.Integrity

/-!
# Centralisd — the orchestrator's connection table

`masterConns` is keyed by master ID while handlers belong to connections,
and the deferred `unregisterMasterConn` of `handleConn` removes by ID. The
`Store` has lifetimes of its own: an entry is online until its TTL passes,
whichever connection reported it.

* `LatestOwns` — the latest connection of an ID, while in its message loop,
  is the one `masterConns` maps the ID to;
* `OnlineReachable` — a connected master that is online in the store is
  found by `sendCommandWait`;
* `connTable_correct` — both hold along every run in which no handler
  unregisters an ID that another connection is serving, and the first
  exactly along the runs in which none unregisters an ID under its latest
  live connection.
-/

namespace Centralisd.Orchestrator

open KeyedTable

variable {C : Crypto} {masterWhitelist : Whitelist}

/-! ## What the table is for -/

/-- The connection authenticated as `i` and is in its message loop. -/
def InLoop (s : State) (c : ConnID) (i : String) : Prop :=
  ∃ cr l, s.phase c = some (.loop cr l) ∧ cr.hello.id = i

/-- The latest connection of an ID owns it while in its message loop. -/
def LatestOwns (s : State) : Prop :=
  ∀ c i, InLoop s c i → s.conns.latest i = some c → s.conns.owner i = some c

/-- `sendCommandWait` finds every master that is connected and online. -/
def OnlineReachable (ttl : Int) (s : State) : Prop :=
  ∀ c i, InLoop s c i → ∀ now e, s.masters.lookup i = some e → e.fresh ttl now = true →
    lookupMaster s.conns i ≠ .error "master not connected"

/-- The deferred removal comes when no other connection serves the ID. -/
def UnregistersUnserved (s : State) : Action → Prop
  | .unregisterMasterConn c => ∀ cr, s.phase c = some (.leaving cr) →
      ∀ c', ¬ InLoop s c' cr.hello.id
  | _ => True

/-- The deferred removal comes when the ID's latest connection is not
serving it. -/
def UnregistersStale (s : State) : Action → Prop
  | .unregisterMasterConn c => ∀ cr, s.phase c = some (.leaving cr) →
      ∀ c', s.conns.latest cr.hello.id = some c' → ¬ InLoop s c' cr.hello.id
  | _ => True

/-! ## Who is in the loop after a step -/

/-- Apart from a registration, a step brings no connection into its message
loop. -/
theorem inLoop_of_step {s t : State} {c : ConnID} {p : Phase}
    (hphase : t.phase = Function.update s.phase c (some p))
    (hp : ∀ cr l, p = .loop cr l → ∃ l', s.phase c = some (.loop cr l')) {c' : ConnID}
    {i : String} (h : InLoop t c' i) : InLoop s c' i := by
  obtain ⟨cr, l, hl, hid⟩ := h
  rw [hphase] at hl
  by_cases hc : c' = c
  · subst hc
    rw [Function.update_self, Option.some.injEq] at hl
    obtain ⟨l', hl'⟩ := hp cr l hl
    exact ⟨cr, l', hl', hid⟩
  · rw [Function.update_of_ne hc] at hl
    exact ⟨cr, l, hl, hid⟩

/-- A handler that stays in its loop with the same credentials changes
nobody's membership. -/
theorem inLoop_of_loop {s t : State} {c : ConnID} {cr : Credentials} {l l' : LoopPhase}
    (hphase : t.phase = Function.update s.phase c (some (.loop cr l')))
    (hph : s.phase c = some (.loop cr l)) {c' : ConnID} {i : String} (h : InLoop t c' i) :
    InLoop s c' i := by
  refine inLoop_of_step hphase ?_ h
  intro cr' k hp
  obtain ⟨rfl, rfl⟩ := Phase.loop.inj hp
  exact ⟨l, hph⟩

theorem Moves.of_loop {c : ConnID} {a : Action} {ph : Option Phase} {p : Phase}
    (hm : Moves C masterWhitelist c a ph p) {cr : Credentials} {l : LoopPhase}
    (hp : p = .loop cr l) : ∃ l', ph = some (.loop cr l') := by
  subst hp
  cases hm with
  | inLoop h => exact ⟨_, rfl⟩

theorem Moves.ne_unregisterMasterConn {c : ConnID} {ph : Option Phase} {p : Phase} {c' : ConnID}
    (hm : Moves C masterWhitelist c (.unregisterMasterConn c') ph p) : False := by
  cases hm with
  | reject h ha => exact ha
  | inLoop h => cases h

/-- What a step does to the connections in their loop and to the table: it
adds nobody and leaves the table alone, it registers a connection, or it
unregisters the ID of a leaving one. -/
theorem conns_step {s t : State} {a : Action} (hs : Inv C masterWhitelist s)
    (h : step C masterWhitelist s a = some t) :
    ((∀ c, a ≠ .unregisterMasterConn c) ∧ t.conns = s.conns ∧
      ∀ c i, InLoop t c i → InLoop s c i) ∨
    (∃ c k, (∀ c, a ≠ .unregisterMasterConn c) ∧ t.conns = s.conns.register k c ∧
      ∀ c' i, InLoop t c' i → (c' = c ∧ i = k) ∨ (c' ≠ c ∧ InLoop s c' i)) ∨
    (∃ c cr, a = .unregisterMasterConn c ∧ s.phase c = some (.leaving cr) ∧
      t.conns = s.conns.unregister cr.hello.id ∧ ∀ c' i, InLoop t c' i ↔ InLoop s c' i) := by
  cases step_cases h with
  | move hm =>
    refine .inl ⟨?_, rfl, fun c i => inLoop_of_step rfl fun cr l hp => hm.of_loop hp⟩
    rintro c rfl
    exact hm.ne_unregisterMasterConn
  | verify hph hcheck =>
    exact .inl ⟨by simp, rfl, fun c i => inLoop_of_step rfl (by simp)⟩
  | receive hph =>
    exact .inl ⟨by simp, rfl, fun c i => inLoop_of_loop rfl hph⟩
  | register hph =>
    rename_i c cr
    -- `registerMasterConn` ignores the empty ID, which no accepted hello has
    have hid : cr.hello.id ≠ "" := (hs.phase c _ hph).1.id_ne_empty
    refine .inr (.inl ⟨c, cr.hello.id, by simp, if_neg hid, ?_⟩)
    rintro c' i ⟨cr', l, hl, hi⟩
    by_cases hc : c' = c
    · subst hc
      rw [phase_move_self, Option.some.injEq] at hl
      obtain ⟨rfl, rfl⟩ := Phase.loop.inj hl
      exact .inl ⟨rfl, hi.symm⟩
    · exact .inr ⟨hc, cr', l, (phase_move_ne s _ [] hc).symm.trans hl, hi⟩
  | resolve hph hres =>
    exact .inl ⟨by simp, rfl, fun c i => inLoop_of_loop rfl hph⟩
  | store hph =>
    exact .inl ⟨by simp, rfl, fun c i => inLoop_of_loop rfl hph⟩
  | unregister hph =>
    rename_i c cr
    refine .inr (.inr ⟨c, cr, rfl, hph, hs.unregisterMasterConn_eq hph, fun c' i => ?_⟩)
    refine ⟨inLoop_of_step rfl (by simp), ?_⟩
    rintro ⟨cr', l, hl, hi⟩
    -- the handler that leaves was out of its loop already
    have hc : c' ≠ c := by
      rintro rfl
      exact absurd (hph.symm.trans hl) (by simp)
    exact ⟨cr', l, (phase_move_ne s _ [] hc).trans hl, hi⟩
  | pendInsert => exact .inl ⟨by simp, rfl, fun _ _ h => h⟩
  | pendDelete => exact .inl ⟨by simp, rfl, fun _ _ h => h⟩

/-! ## The latest connection owns its ID -/

/-- A step keeps `LatestOwns` exactly when it does not unregister an ID
whose latest connection is serving it. -/
theorem latestOwns_step_iff {s t : State} {a : Action} (hs : Inv C masterWhitelist s)
    (hown : LatestOwns s) (h : step C masterWhitelist s a = some t) :
    LatestOwns t ↔ UnregistersStale s a := by
  have hother : (∀ c, a ≠ .unregisterMasterConn c) → UnregistersStale s a := by
    intro ha
    cases a with
    | unregisterMasterConn c => exact absurd rfl (ha c)
    | _ => trivial
  rcases conns_step hs h with ⟨ha, hconns, hloop⟩ | ⟨c, k, ha, hconns, hloop⟩ |
    ⟨c, cr, rfl, hph, hconns, hloop⟩
  · -- the table and the loops are as before
    refine ⟨fun _ => hother ha, fun _ c i hi hl => ?_⟩
    rw [hconns] at hl ⊢
    exact hown c i (hloop c i hi) hl
  · -- a registration makes its connection the latest and the owner at once
    refine ⟨fun _ => hother ha, fun _ c' i hi hl => ?_⟩
    rw [hconns] at hl ⊢
    by_cases hik : i = k
    · subst hik
      rw [latest_register] at hl
      rw [owner_register, hl]
    · rw [latest_register_ne _ _ hik] at hl
      rw [owner_register_ne _ _ hik]
      rcases hloop c' i hi with ⟨-, hik'⟩ | ⟨-, hi⟩
      · exact absurd hik' hik
      · exact hown c' i hi hl
  · constructor
    · -- the latest connection would have lost its entry
      intro hafter cr' hph' c' hl hi
      rw [hph, Option.some.injEq, Phase.leaving.injEq] at hph'
      subst hph'
      have howner := hafter c' cr.hello.id ((hloop c' _).mpr hi) (by rw [hconns]; exact hl)
      rw [hconns, owner_unregister] at howner
      exact absurd howner (by simp)
    · -- the removed ID is not one whose latest connection still serves it
      intro hstale c' i hi hl
      rw [hconns, latest_unregister] at hl
      have hi' := (hloop c' i).mp hi
      have hne : i ≠ cr.hello.id := by
        rintro rfl
        exact hstale cr hph c' hl hi'
      rw [hconns, owner_unregister_ne _ hne]
      exact hown c' i hi' hl

/-! ## Every served ID is found -/

/-- Every ID that a connection serves has an owner. -/
def ServedFound (s : State) : Prop := ∀ c i, InLoop s c i → s.conns.owner i ≠ none

theorem lookupMaster_of_owner {conns : ConnTable} {i : String} (h : conns.owner i ≠ none) :
    lookupMaster conns i ≠ .error "master not connected" := by
  unfold lookupMaster
  split
  · simp
  · cases howner : conns.owner i with
    | none => exact absurd howner h
    | some mc => simp

theorem ServedFound.onlineReachable {s : State} (h : ServedFound s) (ttl : Int) :
    OnlineReachable ttl s :=
  fun c i hi _ _ _ _ => lookupMaster_of_owner (h c i hi)

theorem servedFound_step {s t : State} {a : Action} (hs : Inv C masterWhitelist s)
    (hfound : ServedFound s) (hok : UnregistersUnserved s a)
    (h : step C masterWhitelist s a = some t) : ServedFound t := by
  intro c' i hi
  rcases conns_step hs h with ⟨-, hconns, hloop⟩ | ⟨c, k, -, hconns, hloop⟩ |
    ⟨c, cr, rfl, hph, hconns, hloop⟩
  · rw [hconns]
    exact hfound c' i (hloop c' i hi)
  · rw [hconns]
    by_cases hik : i = k
    · subst hik
      simp
    · rw [owner_register_ne _ _ hik]
      rcases hloop c' i hi with ⟨-, hik'⟩ | ⟨-, hi⟩
      · exact absurd hik' hik
      · exact hfound c' i hi
  · -- nobody serves the ID that is removed
    have hi' := (hloop c' i).mp hi
    have hne : i ≠ cr.hello.id := by
      rintro rfl
      exact hok cr hph c' hi'
    rw [hconns, owner_unregister_ne _ hne]
    exact hfound c' i hi'

theorem UnregistersUnserved.stale {s : State} {a : Action} (h : UnregistersUnserved s a) :
    UnregistersStale s a := by
  cases a with
  | unregisterMasterConn c => exact fun cr hph c' _ => h cr hph c'
  | _ => trivial

/-- **The connection table over whole runs.** For any number of connections
of any IDs and any interleaving:

1. when no deferred `unregisterMasterConn` runs while another connection
   serves the ID, then in every state the latest connection of an ID owns
   it while in its message loop, and `sendCommandWait` finds every master
   that is connected and online;
2. the first of the two holds in every state exactly when no deferred
   `unregisterMasterConn` runs while the ID's latest connection serves it. -/
theorem connTable_correct (C : Crypto) (masterWhitelist : Whitelist) (ttl : Int)
    (as : List Action) (s : State)
    (hrun : Machine.run (step C masterWhitelist) init as = some s) :
    (Machine.Meets (step C masterWhitelist) UnregistersUnserved init as →
      Machine.Holds (step C masterWhitelist)
        (fun s => LatestOwns s ∧ OnlineReachable ttl s) init as) ∧
    (Machine.Holds (step C masterWhitelist) LatestOwns init as ↔
      Machine.Meets (step C masterWhitelist) UnregistersStale init as) := by
  have hinit : LatestOwns init := by
    rintro c i ⟨cr, l, hl, -⟩
    exact absurd hl (by simp [init])
  constructor
  · intro hok
    refine (Machine.holds_of_meets
      (I := fun s => Inv C masterWhitelist s ∧ LatestOwns s ∧ ServedFound s) ?_
      ⟨inv_init, hinit, ?_⟩ hok).mono fun s hs => ⟨hs.2.1, hs.2.2.onlineReachable ttl⟩
    · rintro s a t ⟨hs, hown, hfound⟩ hok hst
      exact ⟨inv_step hs hst, (latestOwns_step_iff hs hown hst).mpr hok.stale,
        servedFound_step hs hfound hok hst⟩
    · rintro c i ⟨cr, l, hl, -⟩
      exact absurd hl (by simp [init])
  · exact Machine.holds_iff_meets (J := Inv C masterWhitelist) (fun _ _ _ hs h => inv_step hs h)
      (fun _ _ _ hs hown h => latestOwns_step_iff hs hown h) inv_init hinit hrun

/-! ## A reconnect that overlaps the old handler -/

/-- The master connects, reconnects before the orchestrator has seen the old
connection fail, reports itself on the new one, and then the old handler
leaves. -/
def reconnectActions : List Action :=
  connectActions Crypto.transparent demoInfo demoKey demoKey 0 (List.replicate 64 0) ++
    (connectActions Crypto.transparent demoInfo demoKey demoKey 1 (List.replicate 64 1) ++
      (updateActions demoInfo 1 100 ++ [.readPacket 0 none, .unregisterMasterConn 0]))

/-- A handler whose read fails leaves, and its ID with it. -/
theorem run_leave {s : State} {c : ConnID} {cr : Credentials}
    (hc : s.phase c = some (.loop cr .reading)) :
    ∃ t, Machine.run (step C masterWhitelist) s
        [.readPacket c none, .unregisterMasterConn c] = some t ∧
      (∀ c', c' ≠ c → t.phase c' = s.phase c') ∧
      t.conns = unregisterMasterConn s.conns cr.hello.id ∧ t.masters = s.masters := by
  simp only [Machine.run_cons, Machine.run_nil, step, hc, Option.bind_some, onReadError,
    phase_move_self, onUnregister]
  refine ⟨_, rfl, ?_, rfl, rfl⟩
  intro c' hc'
  simp only [phase_move_ne _ _ _ hc']

theorem run_reconnectActions :
    ∃ s, Machine.run (step Crypto.transparent demoWhitelist) init reconnectActions = some s ∧
      InLoop s 1 demoInfo.id ∧ s.conns.latest demoInfo.id = some 1 ∧
      s.conns.owner demoInfo.id = none ∧
      s.masters.lookup demoInfo.id = some ⟨demoInfo, 100⟩ := by
  -- the first connection, the second, the report on it, the first one's end
  obtain ⟨s, hs, hs0, hsne, hsc, -, -⟩ :=
    run_connectActions (C := Crypto.transparent) (s := init) (c := 0) rfl rfl (by decide)
      (List.length_replicate ..) admitsMaster_demo (Crypto.transparent_verify demoKey _)
  obtain ⟨t, ht, ht1, htne, htc, -, -⟩ :=
    run_connectActions (C := Crypto.transparent) (s := s) (c := 1) (hsne 1 (by decide)) rfl
      (by decide) (List.length_replicate ..) admitsMaster_demo
      (Crypto.transparent_verify demoKey _)
  obtain ⟨u, hu, hu1, hune, huc, hum⟩ :=
    run_updateActions (C := Crypto.transparent) ht1 (keyID_ne_empty _ _) rfl rfl
  have hu0 := (hune 0 (by decide)).trans ((htne 0 (by decide)).trans hs0)
  obtain ⟨v, hv, hvne, hvc, hvm⟩ := run_leave (C := Crypto.transparent) hu0
  -- the removal is by ID and takes the second registration with it
  have hvc' : v.conns = (s.conns.register demoInfo.id 1).unregister demoInfo.id := by
    rw [hvc, huc, htc]
    exact if_neg (keyID_ne_empty _ _)
  refine ⟨v, ?_, ⟨_, _, (hvne 1 (by decide)).trans hu1, rfl⟩, ?_, ?_, ?_⟩
  · rw [reconnectActions, Machine.run_append, hs, Option.bind_some, Machine.run_append, ht,
      Option.bind_some, Machine.run_append, hu]
    exact hv
  · rw [hvc', latest_unregister, latest_register]
  · rw [hvc', owner_unregister]
  · rw [hvm, hum, AList.lookup_insert]

/-- After the reconnect the newer connection is the latest, serves the
master and has just reported it, but the master is "not connected". -/
theorem reconnect_not_latestOwns :
    ∃ s, Machine.run (step Crypto.transparent demoWhitelist) init reconnectActions = some s ∧
      InLoop s 1 demoInfo.id ∧ s.conns.latest demoInfo.id = some 1 ∧
      lookupMaster s.conns demoInfo.id = .error "master not connected" ∧
      ¬ LatestOwns s ∧ ¬ OnlineReachable 30 s := by
  obtain ⟨s, hs, hloop, hlatest, hgone, hstored⟩ := run_reconnectActions
  have hlookup : lookupMaster s.conns demoInfo.id = .error "master not connected" := by
    have hid : demoInfo.id ≠ "" := keyID_ne_empty _ _
    rw [lookupMaster, if_neg hid, hgone]
  refine ⟨s, hs, hloop, hlatest, hlookup, fun hown => ?_, fun hreach => ?_⟩
  · have := hown 1 _ hloop hlatest
    rw [hgone] at this
    exact absurd this (by simp)
  · exact hreach 1 _ hloop 100 _ hstored (by decide) hlookup

/-- The master leaves before it connects again. -/
def orderlyActions : List Action :=
  connectActions Crypto.transparent demoInfo demoKey demoKey 0 (List.replicate 64 0) ++
    ([.readPacket 0 none, .unregisterMasterConn 0] ++
      (connectActions Crypto.transparent demoInfo demoKey demoKey 1 (List.replicate 64 1) ++
        updateActions demoInfo 1 100))

/-- Nobody serves the ID when the old handler leaves. -/
theorem run_orderlyActions :
    ∃ s, Machine.run (step Crypto.transparent demoWhitelist) init orderlyActions = some s ∧
      InLoop s 1 demoInfo.id ∧
      Machine.Meets (step Crypto.transparent demoWhitelist) UnregistersUnserved init
        orderlyActions := by
  obtain ⟨s, hs, hs0, hsne, -, -, -⟩ :=
    run_connectActions (C := Crypto.transparent) (s := init) (c := 0) rfl rfl (by decide)
      (List.length_replicate ..) admitsMaster_demo (Crypto.transparent_verify demoKey _)
  obtain ⟨t, ht, htne, -, -⟩ := run_leave (C := Crypto.transparent) hs0
  obtain ⟨u, hu, hu1, -, -, -, -⟩ :=
    run_connectActions (C := Crypto.transparent) (s := t) (c := 1)
      ((htne 1 (by decide)).trans (hsne 1 (by decide))) rfl (by decide)
      (List.length_replicate ..) admitsMaster_demo (Crypto.transparent_verify demoKey _)
  obtain ⟨v, hv, hv1, -, -, -⟩ :=
    run_updateActions (C := Crypto.transparent) hu1 (keyID_ne_empty _ _) rfl rfl
  -- of the four parts only the second removes an entry
  have hconnect : ∀ s c random, Machine.Meets (step Crypto.transparent demoWhitelist)
      UnregistersUnserved s
        (connectActions Crypto.transparent demoInfo demoKey demoKey c random) := by
    intro s c random
    simp [connectActions, Machine.Meets, UnregistersUnserved]
  have hupdate : Machine.Meets (step Crypto.transparent demoWhitelist) UnregistersUnserved u
      (updateActions demoInfo 1 100) := by
    simp [updateActions, Machine.Meets, UnregistersUnserved]
  have hleave : Machine.Meets (step Crypto.transparent demoWhitelist) UnregistersUnserved s
      [.readPacket 0 none, .unregisterMasterConn 0] := by
    refine ⟨trivial, fun t ht => ⟨?_, fun _ _ => trivial⟩⟩
    rintro cr hleaving c' ⟨cr', l, hl, -⟩
    simp only [step, hs0, Option.bind_some, onReadError] at ht
    cases ht
    by_cases hc' : c' = 0
    · rw [hc', hleaving] at hl
      cases hl
    · rw [phase_move_ne _ _ _ hc', hsne c' hc'] at hl
      cases hl
  refine ⟨v, ?_, ⟨_, _, hv1, rfl⟩, ?_⟩
  · rw [orderlyActions, Machine.run_append, hs, Option.bind_some, Machine.run_append, ht,
      Option.bind_some, Machine.run_append, hu]
    exact hv
  · exact .append (hconnect _ _ _) hs (.append hleave ht (.append (hconnect _ _ _) hu hupdate))

/-- Both parts: the run without an overlap keeps everything, and the exact
condition on the run with the reconnect. -/
theorem reconnect_latestOwns_iff :
    (∃ s, Machine.run (step Crypto.transparent demoWhitelist) init orderlyActions = some s ∧
      InLoop s 1 demoInfo.id ∧
      Machine.Holds (step Crypto.transparent demoWhitelist)
        (fun s => LatestOwns s ∧ OnlineReachable 30 s) init orderlyActions) ∧
    (Machine.Holds (step Crypto.transparent demoWhitelist) LatestOwns init reconnectActions ↔
      Machine.Meets (step Crypto.transparent demoWhitelist) UnregistersStale init
        reconnectActions) := by
  obtain ⟨s, hs, -⟩ := run_reconnectActions
  obtain ⟨t, ht, hloop, hmeets⟩ := run_orderlyActions
  exact ⟨⟨t, ht, hloop, (connTable_correct _ _ 30 _ t ht).1 hmeets⟩,
    (connTable_correct _ _ 30 _ s hs).2⟩

end Centralisd.Orchestrator
