import Centralisd.Master.Registry
import Centralisd.Orchestrator.Integrity

/-!
# Centralisd — canonical identities

`VerifyIDForPublicKey` compares the *trimmed* ID of a hello with the digest
of its key; both servers then register, pin and store the ID as it was
sent. So a registered ID is the canonical `keyID` of its key exactly when it
has no white space around it.

* `canonical_iff_registersTrimmed` — for the node registry, `masterConns`
  and the store: every registered identity is canonical in every state of a
  run if and only if every registration of the run is of a trimmed ID.
-/

namespace Centralisd

open KeyedTable

/-- An accepted ID is canonical exactly when there is nothing to trim. -/
theorem id_eq_keyID_iff {C : Crypto} {id : String} {pubKey : Bytes}
    (h : trimSpace id = keyID C pubKey) : id = keyID C pubKey ↔ trimSpace id = id := by
  rw [← h]
  exact eq_comm

-- ---------------------------------------------------------------------------
-- The node registry
-- ---------------------------------------------------------------------------

namespace Master

variable {C : Crypto} {allowedNodes : Finset String}

/-- Every identity of the node registry is the canonical one of its key. -/
structure Canonical (C : Crypto) (s : State) : Prop where
  /-- of the connections registered, -/
  registered : ∀ c cr, s.session c = some cr → cr.hello.id = keyID C cr.pubKey
  /-- and so of the entries, which `TrimSpace` leaves as they are; -/
  entries : ∀ i n, s.nodes.owner i = some n →
    ∃ cr, s.session n = some cr ∧ i = keyID C cr.pubKey ∧ trimSpace i = i
  /-- entries of one key are one entry. -/
  oneEntry : ∀ i i' n n' cr cr', s.nodes.owner i = some n → s.nodes.owner i' = some n' →
    s.session n = some cr → s.session n' = some cr' → cr.pubKey = cr'.pubKey → i = i'

/-- A registration is of an ID without white space around it. -/
def RegistersTrimmed (s : State) : Action → Prop
  | .registerNode c => ∀ cr, s.phase c = some (.verified cr) → trimSpace cr.hello.id = cr.hello.id
  | _ => True

/-- The entries follow the connections. -/
theorem Inv.canonical {s : State} (hs : Inv C allowedNodes s)
    (h : ∀ c cr, s.session c = some cr → cr.hello.id = keyID C cr.pubKey) : Canonical C s where
  registered := h
  entries := by
    intro i n hi
    obtain ⟨cr, hcr, rfl⟩ := hs.session_of_owner hi
    refine ⟨cr, hcr, h n cr hcr, ?_⟩
    rw [h n cr hcr, trimSpace_keyID]
  oneEntry := by
    intro i i' n n' cr cr' hi hi' hcr hcr' hkey
    obtain ⟨_, h1, rfl⟩ := hs.session_of_owner hi
    obtain ⟨_, h2, rfl⟩ := hs.session_of_owner hi'
    obtain rfl := Option.some.inj (hcr.symm.trans h1)
    obtain rfl := Option.some.inj (hcr'.symm.trans h2)
    rw [h n _ hcr, h n' _ hcr', hkey]

theorem Moves.ne_registerNode {c : ConnID} {a : Action} {ph : Option Phase} {p : Phase}
    (hm : Moves C allowedNodes c a ph p) (hph : ∀ q, ph = some q → PhaseOK C allowedNodes q)
    (c' : ConnID) : a ≠ .registerNode c' := by
  rintro rfl
  cases hm with
  -- `registerNode` returns nil only for the empty ID
  | nilNode hid => exact (hph (.verified _) rfl).id_ne_empty hid
  | reject h ha => exact ha

/-- Who is registered after a step: those before it, but for a registration
or a removal. -/
theorem session_step {s t : State} {a : Action} (hs : Inv C allowedNodes s)
    (h : step C allowedNodes s a = some t) :
    ((∀ c, a ≠ .registerNode c) ∧ ∀ c cr, t.session c = some cr → s.session c = some cr) ∨
    ∃ c cr, a = .registerNode c ∧ s.phase c = some (.verified cr) ∧ t.session c = some cr ∧
      ∀ c', c' ≠ c → t.session c' = s.session c' := by
  cases step_cases h with
  | move hm =>
    exact .inl ⟨fun c' => hm.ne_registerNode (hs.phase _) c',
      fun c' cr hcr => (session_move _ hm c').symm.trans hcr⟩
  | register hph hid =>
    rename_i c cr
    refine .inr ⟨c, cr, rfl, hph, ?_, fun c' hc' => ?_⟩
    · simp [State.session, Phase.active]
    · simp [State.session, phase_move_ne _ _ _ hc']
  | answered => exact .inl ⟨by simp, fun _ _ hcr => hcr⟩
  | unregister hph =>
    rename_i c cr
    refine .inl ⟨by simp, fun c' cr' hcr => ?_⟩
    -- a handler that has returned is no longer registered
    have hc : c' ≠ c := by
      rintro rfl
      simp [State.session, Phase.active] at hcr
    rwa [State.session, phase_move_ne _ _ _ hc] at hcr

/-- A step keeps the identities canonical exactly when it does not register
an ID with white space around it. -/
theorem canonical_step_iff {s t : State} {a : Action} (hs : Inv C allowedNodes s)
    (hcan : Canonical C s) (h : step C allowedNodes s a = some t) :
    Canonical C t ↔ RegistersTrimmed s a := by
  rcases session_step hs h with ⟨ha, hses⟩ | ⟨c, cr, rfl, hph, hcr, hses⟩
  · refine ⟨fun _ => ?_, fun _ => (inv_step hs h).canonical fun c cr hcr =>
      hcan.registered c cr (hses c cr hcr)⟩
    cases a with
    | registerNode c => exact absurd rfl (ha c)
    | _ => trivial
  · -- the handshake has compared the trimmed ID with the key's
    have hok : CredentialsOK C allowedNodes cr := hs.phase c _ hph
    constructor
    · intro ht cr' hph'
      rw [hph, Option.some.injEq, Phase.verified.injEq] at hph'
      subst hph'
      exact (id_eq_keyID_iff hok.hello.id).mp (ht.registered c cr hcr)
    · intro htrim
      refine (inv_step hs h).canonical fun c' cr' hcr' => ?_
      by_cases hc : c' = c
      · subst hc
        obtain rfl := Option.some.inj (hcr.symm.trans hcr')
        exact (id_eq_keyID_iff hok.hello.id).mpr (htrim cr hph)
      · exact hcan.registered c' cr' ((hses c' hc).symm.trans hcr')

theorem canonical_init : Canonical C init :=
  (inv_init : Inv C ∅ init).canonical fun _ _ h => absurd h (by simp [State.session, init])

end Master

-- ---------------------------------------------------------------------------
-- The orchestrator's connection table and store
-- ---------------------------------------------------------------------------

namespace Orchestrator

variable {C : Crypto} {masterWhitelist : Whitelist}

/-- Every identity of the orchestrator is the canonical one of its key. -/
structure Canonical (C : Crypto) (s : State) : Prop where
  /-- of the connections registered and pinned, -/
  registered : ∀ c cr, s.session c = some cr → cr.hello.id = keyID C cr.pubKey
  /-- and so of the entries of `masterConns`; -/
  entries : ∀ i n, s.conns.owner i = some n →
    ∃ cr, s.session n = some cr ∧ i = keyID C cr.pubKey ∧ trimSpace i = i
  oneEntry : ∀ i i' n n' cr cr', s.conns.owner i = some n → s.conns.owner i' = some n' →
    s.session n = some cr → s.session n' = some cr' → cr.pubKey = cr'.pubKey → i = i'
  /-- of the connections that wrote to the store, -/
  writers : ∀ u ∈ s.updates, u.cr.hello.id = keyID C u.cr.pubKey
  /-- and so of the entries of the store. -/
  stored : ∀ k e, s.masters.lookup k = some e →
    (∃ u ∈ s.updates, u.entry = e) ∧
    ∀ u ∈ s.updates, u.entry = e → k = keyID C u.cr.pubKey ∧ trimSpace k = k
  oneStored : ∀ k k' e e', s.masters.lookup k = some e → s.masters.lookup k' = some e' →
    ∀ u ∈ s.updates, ∀ u' ∈ s.updates, u.entry = e → u'.entry = e' →
      u.cr.pubKey = u'.cr.pubKey → k = k'

/-- A registration is of an ID without white space around it. -/
def RegistersTrimmed (s : State) : Action → Prop
  | .registerMasterConn c => ∀ cr, s.phase c = some (.verified cr) →
      trimSpace cr.hello.id = cr.hello.id
  | _ => True

/-- An entry of the store has the ID of whoever wrote it. -/
theorem Inv.id_of_stored {s : State} (hs : Inv C masterWhitelist s) {k : String}
    {u : Update} (hu : u ∈ s.updates) (h : s.masters.lookup k = some u.entry) :
    u.cr.hello.id = k :=
  (checkMessage_ok (hs.updates u hu).checked).2.2.1.symm.trans (hs.masters k _ h).1

/-- The entries follow the connections and the writers. -/
theorem Inv.canonical {s : State} (hs : Inv C masterWhitelist s)
    (h : ∀ c cr, s.session c = some cr → cr.hello.id = keyID C cr.pubKey)
    (hw : ∀ u ∈ s.updates, u.cr.hello.id = keyID C u.cr.pubKey) : Canonical C s where
  registered := h
  entries := by
    intro i n hi
    obtain ⟨cr, hcr, rfl⟩ := hs.session_of_owner hi
    refine ⟨cr, hcr, h n cr hcr, ?_⟩
    rw [h n cr hcr, trimSpace_keyID]
  oneEntry := by
    intro i i' n n' cr cr' hi hi' hcr hcr' hkey
    obtain ⟨_, h1, rfl⟩ := hs.session_of_owner hi
    obtain ⟨_, h2, rfl⟩ := hs.session_of_owner hi'
    obtain rfl := Option.some.inj (hcr.symm.trans h1)
    obtain rfl := Option.some.inj (hcr'.symm.trans h2)
    rw [h n _ hcr, h n' _ hcr', hkey]
  writers := hw
  stored := by
    intro k e hk
    refine ⟨(hs.masters k e hk).2, ?_⟩
    rintro u hu rfl
    obtain rfl := hs.id_of_stored hu hk
    refine ⟨hw u hu, ?_⟩
    rw [hw u hu, trimSpace_keyID]
  oneStored := by
    rintro k k' _ _ hk hk' u hu u' hu' rfl rfl hkey
    rw [← hs.id_of_stored hu hk, ← hs.id_of_stored hu' hk', hw u hu, hw u' hu', hkey]

theorem Moves.ne_registerMasterConn {c : ConnID} {a : Action} {ph : Option Phase} {p : Phase}
    (hm : Moves C masterWhitelist c a ph p) (c' : ConnID) : a ≠ .registerMasterConn c' := by
  rintro rfl
  cases hm with
  | reject hph ha => exact ha
  | inLoop hl => cases hl

/-- Who is registered after a step, and who has written to the store. -/
theorem registered_step {s t : State} {a : Action}
    (h : step C masterWhitelist s a = some t) :
    ((∀ c, a ≠ .registerMasterConn c) ∧
      (∀ c cr, t.session c = some cr → s.session c = some cr) ∧
      ∀ u ∈ t.updates, u ∈ s.updates ∨ ∃ c, s.session c = some u.cr) ∨
    ∃ c cr, a = .registerMasterConn c ∧ s.phase c = some (.verified cr) ∧
      t.session c = some cr ∧ (∀ c', c' ≠ c → t.session c' = s.session c') ∧
      t.updates = s.updates := by
  cases step_cases h with
  | move hm =>
    exact .inl ⟨fun c' => hm.ne_registerMasterConn c',
      fun c' cr hcr => (session_keep rfl hm.active c').symm.trans hcr, fun u hu => .inl hu⟩
  | verify hph hcheck =>
    refine .inl ⟨by simp, fun c' cr hcr => ?_, fun u hu => .inl hu⟩
    exact (session_keep rfl (by rw [hph]; rfl) c').symm.trans hcr
  | receive hph =>
    refine .inl ⟨by simp, fun c' cr hcr => ?_, fun u hu => .inl hu⟩
    exact (session_keep rfl (by rw [hph]; rfl) c').symm.trans hcr
  | register hph =>
    rename_i c cr
    refine .inr ⟨c, cr, rfl, hph, ?_, fun c' hc' => ?_, rfl⟩
    · simp [State.session, Phase.active]
    · simp [State.session, phase_move_ne _ _ _ hc']
  | resolve hph hres =>
    refine .inl ⟨by simp, fun c' cr hcr => ?_, fun u hu => .inl hu⟩
    exact (session_keep rfl (by rw [hph]; rfl) c').symm.trans hcr
  | store hph =>
    rename_i c cr p e
    refine .inl ⟨by simp, fun c' cr hcr => ?_, fun u hu => ?_⟩
    · exact (session_keep rfl (by rw [hph]; rfl) c').symm.trans hcr
    · -- the one new update is by the connection that stores
      rcases List.mem_cons.mp hu with rfl | hu
      · refine .inr ⟨c, ?_⟩
        rw [State.session, hph]
        rfl
      · exact .inl hu
  | unregister hph =>
    rename_i c cr
    refine .inl ⟨by simp, fun c' cr' hcr => ?_, fun u hu => .inl hu⟩
    have hc : c' ≠ c := by
      rintro rfl
      simp [State.session, Phase.active] at hcr
    rwa [State.session, phase_move_ne _ _ _ hc] at hcr
  | pendInsert => exact .inl ⟨by simp, fun _ _ hcr => hcr, fun u hu => .inl hu⟩
  | pendDelete => exact .inl ⟨by simp, fun _ _ hcr => hcr, fun u hu => .inl hu⟩

/-- A step keeps the identities canonical exactly when it does not register
an ID with white space around it. -/
theorem canonical_step_iff {s t : State} {a : Action} (hs : Inv C masterWhitelist s)
    (hcan : Canonical C s) (h : step C masterWhitelist s a = some t) :
    Canonical C t ↔ RegistersTrimmed s a := by
  rcases registered_step h with ⟨ha, hses, hup⟩ | ⟨c, cr, rfl, hph, hcr, hses, hup⟩
  · refine ⟨fun _ => ?_, fun _ => (inv_step hs h).canonical
      (fun c cr hcr => hcan.registered c cr (hses c cr hcr)) fun u hu => ?_⟩
    · cases a with
      | registerMasterConn c => exact absurd rfl (ha c)
      | _ => trivial
    · rcases hup u hu with hold | ⟨c, hcr⟩
      · exact hcan.writers u hold
      · exact hcan.registered c _ hcr
  · -- `VerifyMasterAuth` has compared the trimmed ID with the key's
    have hid := (hs.phase c _ hph).1.verified.1
    constructor
    · intro ht cr' hph'
      rw [hph, Option.some.injEq, Phase.verified.injEq] at hph'
      subst hph'
      exact (id_eq_keyID_iff hid).mp (ht.registered c cr hcr)
    · intro htrim
      refine (inv_step hs h).canonical (fun c' cr' hcr' => ?_) fun u hu =>
        hcan.writers u (hup ▸ hu)
      by_cases hc : c' = c
      · subst hc
        obtain rfl := Option.some.inj (hcr.symm.trans hcr')
        exact (id_eq_keyID_iff hid).mpr (htrim cr hph)
      · exact hcan.registered c' cr' ((hses c' hc).symm.trans hcr')

theorem canonical_init : Canonical C init :=
  (inv_init : Inv C ∅ init).canonical
    (fun _ _ h => absurd h (by simp [State.session, init]))
    fun _ hu => absurd hu (by simp [init])

end Orchestrator

/-- **Canonical identities over whole runs.** For every transcript of every
client, with and without an allow-list: the identities of the node registry
are canonical in every state of a run exactly when every ID the run
registers is trimmed, and the same holds of `masterConns` and the store. -/
theorem canonical_iff_registersTrimmed (C : Crypto)
    (allowedNodes : Finset String) (as : List Master.Action) (s : Master.State)
    (hrun : Machine.run (Master.step C allowedNodes) Master.init as = some s)
    (masterWhitelist : Orchestrator.Whitelist) (bs : List Orchestrator.Action)
    (t : Orchestrator.State)
    (hrun' : Machine.run (Orchestrator.step C masterWhitelist) Orchestrator.init bs = some t) :
    (Machine.Holds (Master.step C allowedNodes) (Master.Canonical C) Master.init as ↔
      Machine.Meets (Master.step C allowedNodes) Master.RegistersTrimmed Master.init as) ∧
    (Machine.Holds (Orchestrator.step C masterWhitelist) (Orchestrator.Canonical C)
        Orchestrator.init bs ↔
      Machine.Meets (Orchestrator.step C masterWhitelist) Orchestrator.RegistersTrimmed
        Orchestrator.init bs) := by
  constructor
  · exact Machine.holds_iff_meets (J := Master.Inv C allowedNodes)
      (fun _ _ _ hs h => Master.inv_step hs h)
      (fun _ _ _ hs hcan h => Master.canonical_step_iff hs hcan h) Master.inv_init
      Master.canonical_init hrun
  · exact Machine.holds_iff_meets (J := Orchestrator.Inv C masterWhitelist)
      (fun _ _ _ hs h => Orchestrator.inv_step hs h)
      (fun _ _ _ hs hcan h => Orchestrator.canonical_step_iff hs hcan h) Orchestrator.inv_init
      Orchestrator.canonical_init hrun'

-- ---------------------------------------------------------------------------
-- An ID with a leading blank
-- ---------------------------------------------------------------------------

/-- The ID of the key, with a blank in front. -/
def paddedID : String := " " ++ keyID Crypto.transparent demoKey

theorem trimSpace_paddedID : trimSpace paddedID = keyID Crypto.transparent demoKey := by
  rw [paddedID, trimSpace_space_append, trimSpace_keyID]

theorem paddedID_ne : paddedID ≠ keyID Crypto.transparent demoKey := by
  intro h
  have hlen := congrArg String.length h
  rw [paddedID, String.length_append] at hlen
  have hone : " ".length = 1 := by decide
  omega

/-- A slave connects, and a client with its key registers once more under
the padded ID. -/
def paddedSlave : List Master.Action :=
  Master.connectActions Crypto.transparent demoKey demoKey 0 (List.replicate 64 0) ++
    Master.clientActions { Slave.authHello Crypto.transparent demoKey with id := paddedID }
      (Crypto.transparent.sign demoKey (generateChallenge (List.replicate 64 1))) 1
      (List.replicate 64 1)

/-- A master with the padded ID. -/
def paddedMaster : List Orchestrator.Action :=
  Orchestrator.clientActions
    { Master.authHello Orchestrator.demoInfo demoKey with id := paddedID }
    (Crypto.transparent.sign demoKey (generateChallenge (List.replicate 64 0))) 0
    (List.replicate 64 0)

theorem run_paddedSlave :
    ∃ s, Machine.run (Master.step Crypto.transparent ∅) Master.init paddedSlave = some s ∧
      s.nodes.owner (keyID Crypto.transparent demoKey) = some 0 ∧
      s.nodes.owner paddedID = some 1 ∧
      (s.session 0).map Credentials.pubKey = some demoKey ∧
      (s.session 1).map Credentials.pubKey = some demoKey := by
  have hadmits : ∀ id, Master.admitsNode ∅ id = true := fun id => by simp [Master.admitsNode]
  have hlen : demoKey.length = publicKeySize := by decide
  have hpriv : demoKey.length ≠ 0 := by decide
  obtain ⟨s, hs, hs0, hsne, hsn⟩ :=
    Master.run_connectActions (C := Crypto.transparent) (s := Master.init) (c := 0) rfl
      hlen hpriv (List.length_replicate ..) (hadmits _) (Crypto.transparent_verify ..)
  -- the same key again: the hello passes, as its ID is compared trimmed
  obtain ⟨t, ht, ht1, htne, htn⟩ :=
    Master.run_clientActions (C := Crypto.transparent) (s := s) (c := 1)
      { Slave.authHello Crypto.transparent demoKey with id := paddedID }
      (hsne 1 (by decide)) rfl (Base64.decodeString_encodeToString demoKey) trimSpace_paddedID
      (hadmits _) hlen (List.length_replicate ..) (Crypto.transparent_verify ..)
  refine ⟨t, ?_, ?_, ?_, ?_, ?_⟩
  · rw [paddedSlave, Machine.run_append, hs]
    exact ht
  · rw [htn, owner_register_ne _ _ paddedID_ne.symm, hsn, owner_register]
  · rw [htn]
    exact owner_register ..
  · rw [Master.State.session, htne 0 (by decide), hs0]
    rfl
  · rw [Master.State.session, ht1]
    rfl

theorem run_paddedMaster :
    ∃ t, Machine.run (Orchestrator.step Crypto.transparent ∅) Orchestrator.init paddedMaster =
        some t ∧
      t.conns.owner paddedID = some 0 ∧
      (t.session 0).map (fun cr => (cr.hello.id, cr.pubKey)) = some (paddedID, demoKey) := by
  obtain ⟨t, ht, ht0, -, htc, -, -⟩ :=
    Orchestrator.run_clientActions (C := Crypto.transparent) (s := Orchestrator.init) (c := 0)
      { Master.authHello Orchestrator.demoInfo demoKey with id := paddedID } ∅ rfl rfl
      (Base64.decodeString_encodeToString demoKey) trimSpace_paddedID rfl (by decide)
      (List.length_replicate ..) (Crypto.transparent_verify demoKey _)
  refine ⟨t, ht, ?_, ?_⟩
  · rw [htc]
    exact owner_register ..
  · rw [Orchestrator.State.session, ht0]
    rfl

/-- One key occupies two entries of the node registry, and the orchestrator
pins an ID that is not the key's. -/
theorem padded_not_canonical :
    (∃ s, Machine.run (Master.step Crypto.transparent ∅) Master.init paddedSlave = some s ∧
      s.nodes.owner (keyID Crypto.transparent demoKey) = some 0 ∧
      s.nodes.owner paddedID = some 1 ∧ ¬ Master.Canonical Crypto.transparent s) ∧
    ∃ t, Machine.run (Orchestrator.step Crypto.transparent ∅) Orchestrator.init paddedMaster =
        some t ∧
      t.conns.owner paddedID = some 0 ∧ ¬ Orchestrator.Canonical Crypto.transparent t := by
  constructor
  · obtain ⟨s, hs, h0, h1, hkey, hkey'⟩ := run_paddedSlave
    obtain ⟨cr, hcr, hkey⟩ := Option.map_eq_some_iff.mp hkey
    obtain ⟨cr', hcr', hkey'⟩ := Option.map_eq_some_iff.mp hkey'
    refine ⟨s, hs, h0, h1, fun hcan => paddedID_ne.symm ?_⟩
    exact hcan.oneEntry _ _ 0 1 cr cr' h0 h1 hcr hcr' (hkey.trans hkey'.symm)
  · obtain ⟨t, ht, h0, hpinned⟩ := run_paddedMaster
    obtain ⟨cr, hcr, heq⟩ := Option.map_eq_some_iff.mp hpinned
    obtain ⟨hid, hkey⟩ := Prod.mk.inj heq
    refine ⟨t, ht, h0, fun hcan => paddedID_ne ?_⟩
    rw [← hid, ← hkey]
    exact hcan.registered 0 cr hcr

/-- The exact condition, on those two runs. -/
theorem padded_canonical_iff :
    (Machine.Holds (Master.step Crypto.transparent ∅) (Master.Canonical Crypto.transparent)
        Master.init paddedSlave ↔
      Machine.Meets (Master.step Crypto.transparent ∅) Master.RegistersTrimmed Master.init
        paddedSlave) ∧
    (Machine.Holds (Orchestrator.step Crypto.transparent ∅)
        (Orchestrator.Canonical Crypto.transparent) Orchestrator.init paddedMaster ↔
      Machine.Meets (Orchestrator.step Crypto.transparent ∅) Orchestrator.RegistersTrimmed
        Orchestrator.init paddedMaster) := by
  obtain ⟨s, hs, -⟩ := run_paddedSlave
  obtain ⟨t, ht, -⟩ := run_paddedMaster
  exact canonical_iff_registersTrimmed _ _ _ s hs _ _ t ht

end Centralisd
