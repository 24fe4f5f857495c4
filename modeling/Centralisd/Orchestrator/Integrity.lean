import Centralisd.Orchestrator.Server

/-!
# Centralisd — integrity of the orchestrator's store

What holds in every reachable state of the orchestrator (`Inv`): what each
handler has checked at its phase, which credentials a connection was
accepted with, how `masterConns` relates to the handlers, and where every
entry of the store comes from.

* `storeIntegrity` — every entry was written for a register or heartbeat
  packet read on a connection authenticated for exactly its ID and cluster,
  only such a connection can change it, and a rejected packet leaves the
  store as it was.
-/

namespace Centralisd.Orchestrator

open KeyedTable

variable {C : Crypto} {masterWhitelist : Whitelist}

/-! ## What the checks establish -/

/-- Credentials that passed `VerifyMasterAuth` and the whitelist. -/
structure CredentialsOK (C : Crypto) (masterWhitelist : Whitelist) (cr : Credentials) : Prop where
  accepted : verifyMasterAuth C cr.challenge (helloInfo cr.hello) cr.signature = some true
  key : Base64.decodeString cr.hello.pubKey = some cr.pubKey
  role : cr.hello.role = "master"
  admitted : admitsMaster masterWhitelist cr.hello.cluster cr.hello.id = .ok ()

theorem CredentialsOK.verified {cr : Credentials} (h : CredentialsOK C masterWhitelist cr) :
    trimSpace cr.hello.id = keyID C cr.pubKey ∧ cr.Proven C := by
  obtain ⟨pubKey, hdec, hid, hsig⟩ := verifyMasterAuth_eq_true.mp h.accepted
  obtain rfl : cr.pubKey = pubKey := Option.some.inj (h.key.symm.trans hdec)
  exact ⟨hid, (verifyChallengeSignature_eq_true C _ _ _).mp hsig⟩

theorem CredentialsOK.id_ne_empty {cr : Credentials} (h : CredentialsOK C masterWhitelist cr) :
    cr.hello.id ≠ "" :=
  id_ne_empty_of_verify h.verified.1

theorem checkAuthHello_ok {p : Packet} {authHello : AuthHello}
    (h : checkAuthHello p = .ok authHello) :
    decodePayload AuthHello.unmarshal p = .ok authHello ∧ authHello.role = "master" := by
  unfold checkAuthHello at h
  split at h
  · -- "auth wrong type"
    cases h
  · split at h
    · -- "auth payload invalid"
      cases h
    · next hello hdec =>
      split at h
      · -- "auth wrong role"
        cases h
      · next hrole =>
        cases h
        exact ⟨hdec, not_not.mp hrole⟩

theorem checkAuthProof_ne_none (challenge : String) (authHello : AuthHello) (p : Packet) :
    checkAuthProof C masterWhitelist challenge authHello p ≠ none := by
  unfold checkAuthProof
  split
  · exact Option.some_ne_none _
  · split
    · exact Option.some_ne_none _
    · split
      · next hverify => exact absurd hverify (verifyMasterAuth_ne_none C _ _ _)
      · exact Option.some_ne_none _
      · split <;> exact Option.some_ne_none _

theorem checkAuthProof_ok {challenge : String} {authHello : AuthHello} {p : Packet}
    {cr : Credentials} (hrole : authHello.role = "master")
    (h : checkAuthProof C masterWhitelist challenge authHello p = some (.ok cr)) :
    ∃ sig, p.type = packetAuthProof ∧ decodePayload AuthProof.unmarshal p = .ok ⟨sig⟩ ∧
      cr = credentials authHello challenge sig ∧ CredentialsOK C masterWhitelist cr := by
  unfold checkAuthProof at h
  split at h
  · cases h
  · next htype =>
    split at h
    · cases h
    · next proof hdec =>
      split at h
      · -- the panic of `ed25519.Verify`
        cases h
      · -- "auth verify failed"
        cases h
      · next hverify =>
        split at h
        · -- refused by the whitelist
          cases h
        · next hadmit =>
          simp only [Option.some.injEq, Except.ok.injEq] at h
          subst h
          obtain ⟨pubKey, hkey, -, -⟩ := verifyMasterAuth_eq_true.mp hverify
          have hpub : Base64.decodeString authHello.pubKey = some pubKey := hkey
          refine ⟨proof.signature, not_not.mp htype, hdec, rfl, hverify, ?_, hrole, hadmit⟩
          rw [credentials, hpub]
          rfl

/-- What a packet that reaches `UpsertMaster` says. -/
theorem checkMessage_ok {id cluster : String} {p : Packet} {mi : MasterInfo}
    (h : checkMessage id cluster p = .ok mi) :
    (p.type = packetMasterRegister ∨ p.type = packetMasterHeartbeat) ∧
      decodePayload MasterInfo.unmarshal p = .ok mi ∧ mi.id = id ∧ mi.cluster = cluster := by
  unfold checkMessage at h
  split at h
  · next htype =>
    unfold checkUpdate at h
    split at h
    · -- "payload invalid"
      cases h
    · next mi' hdec =>
      split at h
      · -- "master id missing"
        cases h
      · split at h
        · -- "master id changed"
          cases h
        · next hid =>
          split at h
          · -- "cluster changed"
            cases h
          · next hcluster =>
            cases h
            exact ⟨htype, hdec, not_not.mp hid, not_not.mp hcluster⟩
  · cases h

/-- What the whitelist stage lets pass. -/
theorem admitsMaster_ok {cluster id : String} (h : admitsMaster masterWhitelist cluster id = .ok ())
    (hne : 0 < masterWhitelist.entries.length) :
    ∃ clusterSet, masterWhitelist.lookup cluster = some clusterSet ∧ id ∈ clusterSet := by
  unfold admitsMaster at h
  rw [if_pos hne] at h
  split at h
  · -- "cluster not allowed"
    cases h
  · next clusterSet hlookup =>
    split at h
    · next hmem => exact ⟨clusterSet, hlookup, hmem⟩
    · -- "master not allowed"
      cases h

/-! ## The invariant of all runs -/

/-- The credentials of a handler past the handshake. -/
def Phase.session : Phase → Option Credentials
  | .verified cr => some cr
  | .loop cr _ => some cr
  | .leaving cr => some cr
  | _ => none

/-- The credentials of a handler between `registerMasterConn` and the
deferred `unregisterMasterConn`. -/
def Phase.active : Phase → Option Credentials
  | .loop cr _ => some cr
  | .leaving cr => some cr
  | _ => none

/-- The credentials of a registered connection, which pin its ID. -/
def State.session (s : State) (c : ConnID) : Option Credentials := (s.phase c).bind Phase.active

/-- The ID a connection is registered under, while its handler runs. -/
def State.held (s : State) (c : ConnID) : Option String :=
  (s.session c).map fun cr => cr.hello.id

/-- The handler of a connection has returned. -/
def State.Returned (s : State) (c : ConnID) : Prop := s.phase c = some .returned

/-- What the message loop has read and checked. -/
def LoopOK (received : List Packet) (cr : Credentials) : LoopPhase → Prop
  | .reading => True
  | .resolving p => p ∈ received
  | .checking p mi => p ∈ received ∧ checkMessage cr.hello.id cr.hello.cluster p = .ok mi
  | .stamping p mi => p ∈ received ∧ checkMessage cr.hello.id cr.hello.cluster p = .ok mi
  | .storing p e =>
    p ∈ received ∧ checkMessage cr.hello.id cr.hello.cluster p = .ok e.toMasterInfo

/-- What holds at each phase of a connection with the given accepted
credentials and received packets. -/
def PhaseOK (C : Crypto) (masterWhitelist : Whitelist) (authed : Option Credentials)
    (received : List Packet) : Phase → Prop
  | .proof _ authHello => authHello.role = "master"
  | .verified cr => CredentialsOK C masterWhitelist cr ∧ authed = some cr
  | .loop cr l => CredentialsOK C masterWhitelist cr ∧ authed = some cr ∧ LoopOK received cr l
  | .leaving cr => CredentialsOK C masterWhitelist cr ∧ authed = some cr
  | .panicked => False
  | _ => True

/-- An update was made on a connection accepted with its credentials, for a
packet read there that passes the checks. -/
structure UpdateOK (C : Crypto) (masterWhitelist : Whitelist) (s : State) (u : Update) : Prop where
  authed : s.authed u.conn = some u.cr
  credentials : CredentialsOK C masterWhitelist u.cr
  received : u.packet ∈ s.received u.conn
  checked : checkMessage u.cr.hello.id u.cr.hello.cluster u.packet = .ok u.entry.toMasterInfo

structure Inv (C : Crypto) (masterWhitelist : Whitelist) (s : State) : Prop where
  phase : ∀ c p, s.phase c = some p → PhaseOK C masterWhitelist (s.authed c) (s.received c) p
  session : ∀ c cr, s.authed c = some cr →
    s.Returned c ∨ (s.phase c).bind Phase.session = some cr
  tracks : Tracks s.held s.Returned s.conns
  masters : ∀ k e, s.masters.lookup k = some e → e.id = k ∧ ∃ u ∈ s.updates, u.entry = e
  updates : ∀ u ∈ s.updates, UpdateOK C masterWhitelist s u

theorem inv_init : Inv C masterWhitelist init where
  phase := fun _ _ h => absurd h (by simp [init])
  session := fun _ _ h => absurd h (by simp [init])
  tracks := tracks_empty fun _ => rfl
  masters := fun _ _ h => absurd h (by simp [init])
  updates := fun _ h => absurd h (by simp [init])

theorem State.not_returned_of_held {s : State} {c : ConnID} {k : String}
    (h : s.held c = some k) : ¬ s.Returned c := by
  intro hr
  rw [State.held, State.session, hr] at h
  exact absurd h (by simp [Phase.active])

/-! ## Moves of one handler -/

theorem LoopMoves.loopOK {c : ConnID} {cr : Credentials} {a : Action} {l l' : LoopPhase}
    {received : List Packet} (hm : LoopMoves c cr a l l') (hl : LoopOK received cr l) :
    LoopOK received cr l' := by
  cases hm with
  | refused h => trivial
  -- the packet that was read has now passed the checks
  | update h => exact ⟨hl, h⟩
  | allowed h => exact hl
  | disallowed h => trivial
  | now => exact hl

theorem Moves.phaseOK {c : ConnID} {a : Action} {ph : Option Phase} {p : Phase}
    {authed : Option Credentials} {received : List Packet} (hm : Moves C masterWhitelist c a ph p)
    (hph : ∀ q, ph = some q → PhaseOK C masterWhitelist authed received q) :
    PhaseOK C masterWhitelist authed received p := by
  cases hm with
  | accept => trivial
  | hello line => trivial
  | challenge h => trivial
  | auth h => exact (checkAuthHello_ok h).2
  -- the length check of `VerifyMasterAuth` comes before `ed25519.Verify`
  | verifyPanic h => exact absurd h (checkAuthProof_ne_none _ _ _)
  | reject h ha => trivial
  | readError => exact ⟨(hph _ rfl).1, (hph _ rfl).2.1⟩
  | inLoop h => exact ⟨(hph _ rfl).1, (hph _ rfl).2.1, h.loopOK (hph _ rfl).2.2⟩

theorem Moves.session {c : ConnID} {a : Action} {ph : Option Phase} {p : Phase}
    (hm : Moves C masterWhitelist c a ph p) : p.session = ph.bind Phase.session := by
  cases hm with
  | reject h ha =>
    rename_i q
    cases q <;> first | rfl | exact absurd h (by simp [Phase.rejectable])
  | _ => rfl

theorem Moves.active {c : ConnID} {a : Action} {ph : Option Phase} {p : Phase}
    (hm : Moves C masterWhitelist c a ph p) : p.active = ph.bind Phase.active := by
  cases hm with
  | reject h ha =>
    rename_i q
    cases q <;> first | rfl | exact absurd h (by simp [Phase.rejectable])
  | _ => rfl

theorem Moves.returned {c : ConnID} {a : Action} {ph : Option Phase} {p : Phase}
    (hm : Moves C masterWhitelist c a ph p) (hph : ph = some .returned) : p = .returned := by
  cases hm <;> simp_all [Phase.rejectable]

/-! ## A step of one connection, phase by phase

The state `t` differs from `s` in the phase of `c`, which is now `p`. -/

section PhaseStep

variable {s t : State} {c : ConnID} {p : Phase}

theorem session_keep (hphase : t.phase = Function.update s.phase c (some p))
    (hp : p.active = (s.phase c).bind Phase.active) (c' : ConnID) :
    t.session c' = s.session c' := by
  rw [State.session, hphase, State.session]
  by_cases hc : c' = c
  · -- the connection that moved keeps its credentials
    subst hc
    rw [Function.update_self, Option.bind_some, hp]
  · rw [Function.update_of_ne hc]

theorem held_step (hphase : t.phase = Function.update s.phase c (some p))
    (hp : p.active = (s.phase c).bind Phase.active) (c' : ConnID) : t.held c' = s.held c' := by
  rw [State.held, session_keep hphase hp c', State.held]

theorem returned_step (hphase : t.phase = Function.update s.phase c (some p))
    (hp : s.phase c = some .returned → p = .returned) (c' : ConnID) (h : s.Returned c') :
    t.Returned c' := by
  rw [State.Returned, hphase]
  by_cases hc : c' = c
  · subst hc
    rw [Function.update_self, hp h]
  · rw [Function.update_of_ne hc]
    exact h

theorem tracks_step (hs : Tracks s.held s.Returned s.conns)
    (hphase : t.phase = Function.update s.phase c (some p)) (hconns : t.conns = s.conns)
    (hp : p.active = (s.phase c).bind Phase.active)
    (hr : s.phase c = some .returned → p = .returned) :
    Tracks t.held t.Returned t.conns :=
  hconns ▸ hs.keep (held_step hphase hp) (returned_step hphase hr)
    fun _ _ => State.not_returned_of_held

/-- The phases, when the other connections' records are untouched. -/
theorem phaseOK_step (hs : Inv C masterWhitelist s)
    (hphase : t.phase = Function.update s.phase c (some p))
    (hframe : ∀ c', c' ≠ c → t.authed c' = s.authed c' ∧ t.received c' = s.received c')
    (hp : PhaseOK C masterWhitelist (t.authed c) (t.received c) p) :
    ∀ c' q, t.phase c' = some q →
      PhaseOK C masterWhitelist (t.authed c') (t.received c') q := by
  intro c' q hq
  rw [hphase] at hq
  by_cases hc : c' = c
  · subst hc
    rw [Function.update_self, Option.some.injEq] at hq
    exact hq ▸ hp
  · rw [Function.update_of_ne hc] at hq
    rw [(hframe c' hc).1, (hframe c' hc).2]
    exact hs.phase c' q hq

/-- The sessions, when `c` keeps its own or has returned. -/
theorem session_step (hs : Inv C masterWhitelist s)
    (hphase : t.phase = Function.update s.phase c (some p))
    (hauthed : ∀ c', c' ≠ c → t.authed c' = s.authed c')
    (hp : ∀ cr, t.authed c = some cr → p = .returned ∨ p.session = some cr) :
    ∀ c' cr, t.authed c' = some cr →
      t.Returned c' ∨ (t.phase c').bind Phase.session = some cr := by
  intro c' cr hcr
  rw [State.Returned, hphase]
  by_cases hc : c' = c
  · subst hc
    rw [Function.update_self]
    rcases hp cr hcr with rfl | hses
    · exact .inl rfl
    · exact .inr hses
  · rw [Function.update_of_ne hc]
    rw [hauthed c' hc] at hcr
    exact hs.session c' cr hcr

/-- A move that keeps the session keeps what `Inv.session` says of it. -/
theorem Inv.session_keep (hs : Inv C masterWhitelist s)
    (hp : p.session = (s.phase c).bind Phase.session)
    (hr : s.phase c = some .returned → p = .returned) :
    ∀ cr, s.authed c = some cr → p = .returned ∨ p.session = some cr := by
  intro cr hcr
  rcases hs.session c cr hcr with hret | hses
  · exact .inl (hr hret)
  · exact .inr (hp.trans hses)

end PhaseStep

theorem UpdateOK.mono {s t : State} {u : Update} (h : UpdateOK C masterWhitelist s u)
    (hauthed : t.authed u.conn = s.authed u.conn)
    (hreceived : ∀ p, p ∈ s.received u.conn → p ∈ t.received u.conn) :
    UpdateOK C masterWhitelist t u :=
  ⟨hauthed.trans h.authed, h.credentials, hreceived _ h.received, h.checked⟩

theorem inv_move {s : State} (hs : Inv C masterWhitelist s) {c : ConnID} {a : Action} {p : Phase}
    {out : List Packet} (hm : Moves C masterWhitelist c a (s.phase c) p) :
    Inv C masterWhitelist (s.move c p out) where
  phase := phaseOK_step hs rfl (fun _ _ => ⟨rfl, rfl⟩) (hm.phaseOK (hs.phase c))
  session := session_step hs rfl (fun _ _ => rfl) (hs.session_keep hm.session hm.returned)
  tracks := tracks_step hs.tracks rfl rfl hm.active hm.returned
  masters := hs.masters
  updates := fun u hu => (hs.updates u hu).mono rfl fun _ h => h

/-- A connection that is still in its handshake has no accepted
credentials. -/
theorem Inv.authed_of_proof {s : State} (hs : Inv C masterWhitelist s) {c : ConnID}
    {challenge : String} {authHello : AuthHello}
    (hph : s.phase c = some (.proof challenge authHello)) : s.authed c = none := by
  cases h : s.authed c with
  | none => rfl
  | some cr =>
    rcases hs.session c cr h with hret | hses
    · rw [State.Returned, hph] at hret
      exact absurd hret (by simp)
    · rw [hph] at hses
      exact absurd hses (by simp [Phase.session])

theorem inv_verify {s : State} (hs : Inv C masterWhitelist s) {c : ConnID} {p : Packet}
    {challenge : String} {authHello : AuthHello} {cr : Credentials}
    (hph : s.phase c = some (.proof challenge authHello))
    (h : checkAuthProof C masterWhitelist challenge authHello p = some (.ok cr)) :
    Inv C masterWhitelist { s.move c (.verified cr) [okPacket] with
      authed := Function.update s.authed c (some cr) } where
  phase := by
    refine phaseOK_step hs rfl (fun c' hc => ⟨Function.update_of_ne hc .., rfl⟩) ?_
    obtain ⟨sig, -, -, -, hok⟩ := checkAuthProof_ok (hs.phase c _ hph) h
    exact ⟨hok, Function.update_self ..⟩
  session := by
    refine session_step hs rfl (fun c' hc => Function.update_of_ne hc ..) fun cr' hcr => .inr ?_
    exact (Function.update_self c (some cr) s.authed).symm.trans hcr
  tracks := tracks_step hs.tracks rfl rfl (by rw [hph]; rfl) (by simp [hph])
  masters := hs.masters
  updates := by
    intro u hu
    -- a connection still in its handshake has made no update
    have hne : u.conn ≠ c := by
      intro e
      have hauthed := (hs.updates u hu).authed
      rw [e, hs.authed_of_proof hph] at hauthed
      exact absurd hauthed (by simp)
    exact (hs.updates u hu).mono (Function.update_of_ne hne ..) fun _ h => h

theorem inv_receive {s : State} (hs : Inv C masterWhitelist s) {c : ConnID} {p : Packet}
    {cr : Credentials} (hph : s.phase c = some (.loop cr .reading)) :
    Inv C masterWhitelist { s.move c (.loop cr (.resolving p)) [] with
      received := Function.update s.received c (s.received c ++ [p]) } where
  phase := by
    refine phaseOK_step hs rfl (fun c' hc => ⟨rfl, Function.update_of_ne hc ..⟩) ?_
    obtain ⟨hok, hauthed, -⟩ := hs.phase c _ hph
    refine ⟨hok, hauthed, ?_⟩
    show p ∈ Function.update s.received c (s.received c ++ [p]) c
    rw [Function.update_self]
    exact List.mem_append_right _ (List.mem_singleton_self p)
  session := session_step hs rfl (fun _ _ => rfl)
    (hs.session_keep (by rw [hph]; rfl) (by simp [hph]))
  tracks := tracks_step hs.tracks rfl rfl (by rw [hph]; rfl) (by simp [hph])
  masters := hs.masters
  updates := by
    intro u hu
    refine (hs.updates u hu).mono rfl fun q hq => ?_
    show q ∈ Function.update s.received c (s.received c ++ [p]) u.conn
    by_cases hc : u.conn = c
    · -- what was read stays read
      rw [hc, Function.update_self]
      exact List.mem_append_left _ (hc ▸ hq)
    · rw [Function.update_of_ne hc]
      exact hq

theorem inv_register {s : State} (hs : Inv C masterWhitelist s) {c : ConnID} {cr : Credentials}
    (hph : s.phase c = some (.verified cr)) :
    Inv C masterWhitelist { s.move c (.loop cr .reading) [] with
      conns := registerMasterConn s.conns cr.hello.id c } where
  phase := phaseOK_step hs rfl (fun _ _ => ⟨rfl, rfl⟩)
    ⟨(hs.phase c _ hph).1, (hs.phase c _ hph).2, trivial⟩
  session := session_step hs rfl (fun _ _ => rfl)
    (hs.session_keep (by rw [hph]; rfl) (by simp [hph]))
  tracks := by
    -- the nil result for an empty ID cannot occur past the handshake
    have hid : cr.hello.id ≠ "" := (hs.phase c _ hph).1.id_ne_empty
    show Tracks _ _ (registerMasterConn s.conns cr.hello.id c)
    rw [registerMasterConn, if_neg hid]
    refine hs.tracks.register (n := c) ?_ ?_ ?_ ?_ ?_ fun _ _ => State.not_returned_of_held
    · simp [State.held, State.session, hph, Phase.active]
    · simp [State.Returned, hph]
    · simp [State.held, State.session, State.move, Phase.active]
    · intro c' hc'
      simp [State.held, State.session, State.move, hc']
    · intro c' hc'
      simp [State.Returned, State.move, hc']
  masters := hs.masters
  updates := fun u hu => (hs.updates u hu).mono rfl fun _ h => h

/-- The ID a leaving handler removes is its own, and never empty. -/
theorem Inv.unregisterMasterConn_eq {s : State} (hs : Inv C masterWhitelist s) {c : ConnID}
    {cr : Credentials} (hph : s.phase c = some (.leaving cr)) :
    unregisterMasterConn s.conns cr.hello.id = s.conns.unregister cr.hello.id := by
  rw [unregisterMasterConn, if_neg (hs.phase c _ hph).1.id_ne_empty]

theorem inv_unregister {s : State} (hs : Inv C masterWhitelist s) {c : ConnID} {cr : Credentials}
    (hph : s.phase c = some (.leaving cr)) :
    Inv C masterWhitelist { s.move c .returned [] with
      conns := unregisterMasterConn s.conns cr.hello.id } where
  phase := phaseOK_step hs rfl (fun _ _ => ⟨rfl, rfl⟩) trivial
  session := session_step hs rfl (fun _ _ => rfl) fun _ _ => .inl rfl
  tracks := by
    rw [hs.unregisterMasterConn_eq hph]
    refine hs.tracks.unregister (n := c) ?_ ?_ ?_ ?_ ?_ fun _ _ => State.not_returned_of_held
    · simp [State.held, State.session, hph, Phase.active]
    · simp [State.Returned, State.move]
    · simp [State.held, State.session, State.move, Phase.active]
    · intro c' hc'
      simp [State.held, State.session, State.move, hc']
    · intro c' hc'
      simp [State.Returned, State.move, hc']
  masters := hs.masters
  updates := fun u hu => (hs.updates u hu).mono rfl fun _ h => h

theorem inv_resolve {s : State} (hs : Inv C masterWhitelist s) {c : ConnID} {cr : Credentials}
    {p : Packet} (hph : s.phase c = some (.loop cr (.resolving p))) (pend : ConnID → Finset String) :
    Inv C masterWhitelist { s.move c (.loop cr .reading) [] with pend := pend } where
  phase := phaseOK_step hs rfl (fun _ _ => ⟨rfl, rfl⟩)
    ⟨(hs.phase c _ hph).1, (hs.phase c _ hph).2.1, trivial⟩
  session := session_step hs rfl (fun _ _ => rfl)
    (hs.session_keep (by rw [hph]; rfl) (by simp [hph]))
  tracks := tracks_step hs.tracks rfl rfl (by rw [hph]; rfl) (by simp [hph])
  masters := hs.masters
  updates := fun u hu => (hs.updates u hu).mono rfl fun _ h => h

theorem inv_pend {s : State} (hs : Inv C masterWhitelist s) (pend : ConnID → Finset String) :
    Inv C masterWhitelist { s with pend := pend } :=
  ⟨hs.phase, hs.session, hs.tracks, hs.masters,
    fun u hu => (hs.updates u hu).mono rfl fun _ h => h⟩

theorem inv_store {s : State} (hs : Inv C masterWhitelist s) {c : ConnID} {cr : Credentials}
    {p : Packet} {e : MasterEntry} (hph : s.phase c = some (.loop cr (.storing p e))) :
    Inv C masterWhitelist { s.move c (.loop cr .reading) [okPacket] with
      masters := s.masters.insert e.id e
      updates := ⟨c, cr, p, e⟩ :: s.updates } where
  phase := phaseOK_step hs rfl (fun _ _ => ⟨rfl, rfl⟩)
    ⟨(hs.phase c _ hph).1, (hs.phase c _ hph).2.1, trivial⟩
  session := session_step hs rfl (fun _ _ => rfl)
    (hs.session_keep (by rw [hph]; rfl) (by simp [hph]))
  tracks := tracks_step hs.tracks rfl rfl (by rw [hph]; rfl) (by simp [hph])
  masters := by
    intro k e' hk
    by_cases hke : k = e.id
    · -- the entry just written, under its own ID
      subst hke
      rw [AList.lookup_insert, Option.some.injEq] at hk
      subst hk
      exact ⟨rfl, _, List.mem_cons_self, rfl⟩
    · rw [AList.lookup_insert_ne hke] at hk
      obtain ⟨hid, u, hu, hue⟩ := hs.masters k e' hk
      exact ⟨hid, u, List.mem_cons_of_mem _ hu, hue⟩
  updates := by
    intro u hu
    rcases List.mem_cons.mp hu with rfl | hu
    · -- the new update: the phase says what was read and checked
      obtain ⟨hok, hauthed, hreceived, hchecked⟩ := hs.phase c _ hph
      exact ⟨hauthed, hok, hreceived, hchecked⟩
    · exact (hs.updates u hu).mono rfl fun _ h => h

theorem inv_step {s t : State} {a : Action} (hs : Inv C masterWhitelist s)
    (h : step C masterWhitelist s a = some t) : Inv C masterWhitelist t := by
  cases step_cases h with
  | move hm => exact inv_move hs hm
  | verify hph hcheck => exact inv_verify hs hph hcheck
  | receive hph => exact inv_receive hs hph
  | register hph => exact inv_register hs hph
  | resolve hph hres => exact inv_resolve hs hph _
  | store hph => exact inv_store hs hph
  | unregister hph => exact inv_unregister hs hph
  | pendInsert => exact inv_pend hs _
  | pendDelete => exact inv_pend hs _

/-- The invariant holds in every reachable state. -/
theorem inv_run {s : State} {as : List Action}
    (h : Machine.run (step C masterWhitelist) init as = some s) : Inv C masterWhitelist s :=
  Machine.run_invariant (fun _ _ _ hs hst => inv_step hs hst) inv_init h

theorem Inv.session_of_owner {s : State} (hs : Inv C masterWhitelist s) {i : String} {n : ConnID}
    (h : s.conns.owner i = some n) : ∃ cr, s.session n = some cr ∧ cr.hello.id = i :=
  Option.map_eq_some_iff.mp (hs.tracks.owner i n h)

theorem Inv.credentialsOK {s : State} (hs : Inv C masterWhitelist s) {n : ConnID}
    {cr : Credentials} (h : s.session n = some cr) : CredentialsOK C masterWhitelist cr := by
  obtain ⟨p, hp, hcr⟩ := Option.bind_eq_some_iff.mp h
  cases p <;> simp only [Phase.active, reduceCtorEq, Option.some.injEq] at hcr
  all_goals
    subst hcr
    exact (hs.phase n _ hp).1

/-- The credentials of an accepted handshake stay on record when the handler
has returned. -/
theorem authed_credentialsOK {s : State} {as : List Action} {c : ConnID} {cr : Credentials}
    (h : Machine.run (step C masterWhitelist) init as = some s) (hcr : s.authed c = some cr) :
    CredentialsOK C masterWhitelist cr := by
  let I := fun s : State => Inv C masterWhitelist s ∧
    ∀ c cr, s.authed c = some cr → CredentialsOK C masterWhitelist cr
  have hinit : I init := ⟨inv_init, fun _ _ h => absurd h (Option.some_ne_none _).symm⟩
  have hstep : ∀ s a t, I s → step C masterWhitelist s a = some t → I t := by
    rintro s a t ⟨hs, hok⟩ hst
    refine ⟨inv_step hs hst, ?_⟩
    cases step_cases hst with
    | @verify c p challenge authHello cr hph hcheck =>
      -- the only step that records credentials has just checked them
      intro c' cr' hcr'
      by_cases hc : c' = c
      · have hrec : Function.update s.authed c (some cr) c = some cr' := hc ▸ hcr'
        rw [Function.update_self, Option.some.injEq] at hrec
        obtain ⟨-, -, -, -, hcrOK⟩ := checkAuthProof_ok (hs.phase _ _ hph) hcheck
        exact hrec ▸ hcrOK
      · have hrec : Function.update s.authed c (some cr) c' = some cr' := hcr'
        rw [Function.update_of_ne hc] at hrec
        exact hok c' cr' hrec
    | _ => exact hok
  exact (Machine.run_invariant hstep hinit h).2 c cr hcr

/-! ## Integrity of the store -/

/-- The entry was written for a register or heartbeat packet read on a
connection that `VerifyMasterAuth` accepted for exactly the ID `k` and whose
hello named exactly the entry's cluster. -/
def WrittenFor (C : Crypto) (s : State) (k : String) (e : MasterEntry) : Prop :=
  ∃ u ∈ s.updates, u.entry = e ∧
    u.packet ∈ s.received u.conn ∧
    (u.packet.type = packetMasterRegister ∨ u.packet.type = packetMasterHeartbeat) ∧
    decodePayload MasterInfo.unmarshal u.packet = .ok e.toMasterInfo ∧
    s.authed u.conn = some u.cr ∧
    verifyMasterAuth C u.cr.challenge (helloInfo u.cr.hello) u.cr.signature = some true ∧
    u.cr.hello.id = k ∧ u.cr.hello.cluster = e.cluster

theorem Inv.writtenFor {s : State} (hs : Inv C masterWhitelist s) {k : String} {e : MasterEntry}
    (h : s.masters.lookup k = some e) :
    e.id = k ∧ k ≠ "" ∧ WrittenFor C s k e ∧
      (0 < masterWhitelist.entries.length →
        ∃ clusterSet, masterWhitelist.lookup e.cluster = some clusterSet ∧ k ∈ clusterSet) := by
  obtain ⟨hk, u, hu, rfl⟩ := hs.masters k e h
  have hok := hs.updates u hu
  obtain ⟨htype, hdec, hid, hcluster⟩ := checkMessage_ok hok.checked
  have hid' : u.cr.hello.id = k := hid.symm.trans hk
  refine ⟨hk, hid' ▸ hok.credentials.id_ne_empty, ?_, ?_⟩
  · exact ⟨u, hu, rfl, hok.received, htype, hdec, hok.authed, hok.credentials.accepted, hid',
      hcluster.symm⟩
  · intro hne
    rw [← hid', show u.entry.cluster = u.cr.hello.cluster from hcluster]
    exact admitsMaster_ok hok.credentials.admitted hne

/-- Only the write step of a connection changes the store, at its own ID and
for a record of its own cluster, and it is answered with `auth.ok`. -/
theorem Inv.masters_step {s t : State} {a : Action} (hs : Inv C masterWhitelist s)
    (h : step C masterWhitelist s a = some t) :
    t.masters = s.masters ∨
    ∃ c cr p e, a = .store c ∧ s.phase c = some (.loop cr (.storing p e)) ∧
      e.id = cr.hello.id ∧ e.cluster = cr.hello.cluster ∧
      t.masters = s.masters.insert cr.hello.id e ∧
      t.sent = Function.update s.sent c (s.sent c ++ [okPacket]) := by
  cases step_cases h with
  | store hph =>
    rename_i c cr p e
    obtain ⟨-, -, -, hchecked⟩ := hs.phase c _ hph
    obtain ⟨-, -, hid, hcluster⟩ := checkMessage_ok hchecked
    have hid' : e.id = cr.hello.id := hid
    exact .inr ⟨c, cr, p, e, rfl, hph, hid', hcluster, hid' ▸ rfl, rfl⟩
  | _ => exact .inl rfl

/-- **Store integrity over whole runs.** For any whitelist, any number of
connections, any packets and any interleaving, in every reachable state:

1. every entry under `k` has the non-empty ID `k`, was written for a
   register or heartbeat packet of a connection authenticated for exactly
   `k` and the entry's cluster, and is whitelisted there;
2. a step that changes the entry of `k` is the write step of a connection
   authenticated for exactly `k`, writing a record of its own cluster;
3. a step that answers with an error packet leaves the store as it was. -/
theorem storeIntegrity (C : Crypto) (masterWhitelist : Whitelist) (as : List Action) (s : State)
    (hrun : Machine.run (step C masterWhitelist) init as = some s) :
    (∀ k e, s.masters.lookup k = some e →
      e.id = k ∧ k ≠ "" ∧ WrittenFor C s k e ∧
        (0 < masterWhitelist.entries.length →
          ∃ clusterSet, masterWhitelist.lookup e.cluster = some clusterSet ∧ k ∈ clusterSet)) ∧
    (∀ a t, step C masterWhitelist s a = some t →
      ∀ k, t.masters.lookup k ≠ s.masters.lookup k →
        ∃ c cr e, a = .store c ∧ s.authed c = some cr ∧
          verifyMasterAuth C cr.challenge (helloInfo cr.hello) cr.signature = some true ∧
          cr.hello.id = k ∧ t.masters.lookup k = some e ∧ e.cluster = cr.hello.cluster) ∧
    (∀ a t, step C masterWhitelist s a = some t →
      (∃ c message, t.sent c = s.sent c ++ [newError message]) → t.masters = s.masters) := by
  have hs := inv_run hrun
  refine ⟨fun k e h => hs.writtenFor h, ?_, ?_⟩
  · intro a t hst k hk
    rcases hs.masters_step hst with heq | ⟨c, cr, p, e, rfl, hph, hid, hcluster, hm, -⟩
    · exact absurd (by rw [heq]) hk
    · obtain ⟨hok, hauthed, -, -⟩ := hs.phase c _ hph
      have hkc : cr.hello.id = k := by
        by_contra hne
        exact hk (by rw [hm, AList.lookup_insert_ne (Ne.symm hne)])
      refine ⟨c, cr, e, rfl, hauthed, hok.accepted, hkc, ?_, hcluster⟩
      rw [hm, ← hkc, AList.lookup_insert]
  · rintro a t hst ⟨c, message, hsent⟩
    rcases hs.masters_step hst with heq | ⟨c', cr, p, e, rfl, hph, -, -, -, hout⟩
    · exact heq
    · -- the write step answers its own client with `auth.ok` and nobody else
      rw [hout] at hsent
      by_cases hc : c = c'
      · subst hc
        rw [Function.update_self] at hsent
        have := List.append_cancel_left hsent
        exact absurd this (by simp [okPacket, newError, packetAuthOK, packetError])
      · rw [Function.update_of_ne hc] at hsent
        exact absurd (congrArg List.length hsent) (by simp)

/-- The record of the master in the closed runs. -/
def demoInfo : MasterInfo :=
  { id := keyID Crypto.transparent demoKey, name := "master-1", cluster := "nl-amsterdam-1" }

/-- A whitelist with that master. -/
def demoWhitelist : Whitelist :=
  AList.insert "nl-amsterdam-1" {keyID Crypto.transparent demoKey} ∅

theorem admitsMaster_demo :
    admitsMaster demoWhitelist demoInfo.cluster demoInfo.id = .ok () := by
  rw [admitsMaster, demoWhitelist, demoInfo]
  simp only [AList.lookup_insert, Finset.mem_singleton, if_true, ite_self]

/-- A master connects to the whitelisting orchestrator and registers. -/
theorem run_demo :
    ∃ s, Machine.run (step Crypto.transparent demoWhitelist) init
        (connectActions Crypto.transparent demoInfo demoKey demoKey 0 (List.replicate 64 0) ++
          updateActions demoInfo 0 100) = some s ∧
      s.masters.lookup demoInfo.id = some ⟨demoInfo, 100⟩ := by
  obtain ⟨s, hs, hs0, -, -, -, hsm⟩ :=
    run_connectActions (C := Crypto.transparent) (s := init) (c := 0) rfl rfl (by decide)
      (List.length_replicate ..) admitsMaster_demo (Crypto.transparent_verify demoKey _)
  obtain ⟨t, ht, -, -, -, htm⟩ :=
    run_updateActions (C := Crypto.transparent) hs0 (keyID_ne_empty _ _) rfl rfl
  refine ⟨t, ?_, ?_⟩
  · rw [Machine.run_append, hs]
    exact ht
  · rw [htm, AList.lookup_insert]

/-- The registered master's entry was written for its own packet and is
whitelisted. -/
theorem storeIntegrity_demo :
    ∃ as s, Machine.run (step Crypto.transparent demoWhitelist) init as = some s ∧
      s.masters.lookup demoInfo.id = some ⟨demoInfo, 100⟩ ∧
      WrittenFor Crypto.transparent s demoInfo.id ⟨demoInfo, 100⟩ := by
  obtain ⟨s, hs, hlookup⟩ := run_demo
  exact ⟨_, s, hs, hlookup, ((storeIntegrity _ _ _ s hs).1 _ _ hlookup).2.2.1⟩

end Centralisd.Orchestrator
