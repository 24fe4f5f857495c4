import Mathlib.Logic.Function.Basic
import Centralisd.Lib.Machine
import Centralisd.Lib.KeyedTable
import Centralisd.Master.Client
import Centralisd.Orchestrator.Store

/-!
# Centralisd — the orchestrator's master server

`handleConn` of `src/orchestrator/tcp/server.go`, with the `masterConns`
table and the `Store`, as a machine whose steps are those of any number of
`handleConn` goroutines. What clients send, what the database answers, the
clock and the concurrent `sendRequest` callers that insert into and delete
from a connection's `pend` are part of the actions.

`UpsertMaster` is three steps, as it takes its lock only for the last one:
the allowed-clusters check, the clock, and the write.

The state also records what the source does not keep: the packets read in
each message loop, the credentials each handshake was accepted with, and
every update of the store.
-/

namespace Centralisd.Orchestrator

/-- Connections, by any numbering. -/
abbrev ConnID := Nat

/-- The compiled whitelist: cluster to the set of allowed master IDs. -/
abbrev Whitelist := AList fun _ : String => Finset String

/-! ## The handshake checks of `handleConn` -/

/-- The whitelist stage: an empty whitelist admits everyone. -/
def admitsMaster (masterWhitelist : Whitelist) (cluster id : String) : Except String Unit :=
  if 0 < masterWhitelist.entries.length then
    match masterWhitelist.lookup cluster with
    | none => .error "cluster not allowed"
    | some clusterSet => if id ∈ clusterSet then .ok () else .error "master not allowed"
  else .ok ()

def checkAuthHello (packet : Packet) : Except String AuthHello :=
  if packet.type ≠ packetAuthHello then .error "auth wrong type"
  else match decodePayload AuthHello.unmarshal packet with
    | .error _ => .error "auth payload invalid"
    | .ok authHello =>
      if authHello.role ≠ "master" then .error "auth wrong role" else .ok authHello

/-- The record `handleConn` passes to `VerifyMasterAuth`. -/
def helloInfo (authHello : AuthHello) : MasterInfo :=
  { id := authHello.id, name := authHello.name, cluster := authHello.cluster,
    advertise := authHello.advertise, pubKey := authHello.pubKey }

/-- The credentials of a hello, a challenge and a signature. -/
def credentials (authHello : AuthHello) (challenge signature : String) : Credentials :=
  ⟨authHello, (Base64.decodeString authHello.pubKey).getD [], challenge, signature⟩

/-- From the proof packet to the accepted credentials; `none` is a panic. -/
def checkAuthProof (C : Crypto) (masterWhitelist : Whitelist) (challenge : String)
    (authHello : AuthHello) (packet : Packet) : Option (Except String Credentials) :=
  if packet.type ≠ packetAuthProof then some (.error "auth proof wrong type")
  else match decodePayload AuthProof.unmarshal packet with
    | .error _ => some (.error "auth proof invalid")
    | .ok proof => match verifyMasterAuth C challenge (helloInfo authHello) proof.signature with
      | none => none
      | some false => some (.error "auth verify failed")
      | some true => match admitsMaster masterWhitelist authHello.cluster authHello.id with
        | .error e => some (.error e)
        | .ok _ => some (.ok (credentials authHello challenge proof.signature))

/-! ## The connection table -/

/-- `masterConns`, with the registrations made so far. -/
abbrev ConnTable := KeyedTable.State String ConnID

/-- `registerMasterConn`; the nil result leaves the table alone. -/
def registerMasterConn (conns : ConnTable) (id : String) (conn : ConnID) : ConnTable :=
  if id = "" then conns else conns.register id conn

/-- `unregisterMasterConn`: by ID, whoever holds it. -/
def unregisterMasterConn (conns : ConnTable) (id : String) : ConnTable :=
  if id = "" then conns else conns.unregister id

/-- The lookup of `sendCommandWait`. -/
def lookupMaster (conns : ConnTable) (masterID : String) : Except String ConnID :=
  if masterID = "" then .error "master id is empty"
  else match conns.owner masterID with
    | none => .error "master not connected"
    | some mc => .ok mc

/-! ## The message loop -/

/-- The checks of a register or heartbeat packet, up to `UpsertMaster`. -/
def checkUpdate (authedMasterID authedClusterID : String) (packet : Packet) :
    Except String MasterInfo :=
  match decodePayload MasterInfo.unmarshal packet with
  | .error _ => .error "payload invalid"
  | .ok mi =>
    if mi.id = "" then .error "master id missing"
    else if mi.id ≠ authedMasterID then .error "master id changed"
    else if mi.cluster ≠ authedClusterID then .error "cluster changed"
    else .ok mi

/-- The `switch` on the packet type: the record to store, or the text of the
error packet. -/
def checkMessage (authedMasterID authedClusterID : String) (packet : Packet) :
    Except String MasterInfo :=
  if packet.type = packetMasterRegister ∨ packet.type = packetMasterHeartbeat then
    checkUpdate authedMasterID authedClusterID packet
  else .error "unknown message type"

/-- `resolveReply` finds a pending request for the packet. -/
def resolves (pend : Finset String) (packet : Packet) : Bool :=
  packet.replyTo != "" && decide (packet.replyTo ∈ pend)

/-! ## `handleConn` as a machine -/

/-- Where a handler is within its message loop. -/
inductive LoopPhase where
  /-- at `ReadPacket` -/
  | reading
  /-- at `resolveReply` -/
  | resolving (packet : Packet)
  /-- in `UpsertMaster`, at the allowed-clusters check -/
  | checking (packet : Packet) (mi : MasterInfo)
  /-- in `UpsertMaster`, at `time.Now` -/
  | stamping (packet : Packet) (mi : MasterInfo)
  /-- in `UpsertMaster`, at the locked write -/
  | storing (packet : Packet) (entry : MasterEntry)

/-- How far a handler has come. -/
inductive Phase where
  /-- at `ReadHello` -/
  | hello
  /-- about to issue the challenge -/
  | challenge
  /-- at `ReadPacket` for the hello -/
  | auth (challenge : String)
  /-- at `ReadPacket` for the proof -/
  | proof (challenge : String) (authHello : AuthHello)
  /-- `auth.ok` written, at `registerMasterConn` -/
  | verified (cr : Credentials)
  /-- in the message loop -/
  | loop (cr : Credentials) (point : LoopPhase)
  /-- a read failed, at the deferred `unregisterMasterConn` -/
  | leaving (cr : Credentials)
  | returned
  | panicked

/-- An update of the store: by which connection, with which credentials, for
which packet. -/
structure Update where
  conn : ConnID
  cr : Credentials
  packet : Packet
  entry : MasterEntry

structure State where
  /-- `none` before the connection is accepted -/
  phase : ConnID → Option Phase
  conns : ConnTable
  masters : Masters
  /-- the IDs of the requests pending on each connection -/
  pend : ConnID → Finset String
  /-- the packets written to each client -/
  sent : ConnID → List Packet
  /-- the packets read in each message loop -/
  received : ConnID → List Packet
  /-- the credentials each handshake was accepted with -/
  authed : ConnID → Option Credentials
  /-- the updates of the store, latest first -/
  updates : List Update

def init : State where
  phase := fun _ => none
  conns := KeyedTable.empty
  masters := ∅
  pend := fun _ => ∅
  sent := fun _ => []
  received := fun _ => []
  authed := fun _ => none
  updates := []

inductive Action where
  | accept (c : ConnID)
  | readHello (c : ConnID) (line : Option String)
  | issueChallenge (c : ConnID) (random : Bytes)
  /-- `ReadPacket` returns, with a packet or an error -/
  | readPacket (c : ConnID) (result : Option Packet)
  | registerMasterConn (c : ConnID)
  | resolveReply (c : ConnID)
  /-- `IsAllowed` returns -/
  | isAllowed (c : ConnID) (verdict : Verdict)
  | now (c : ConnID) (time : Int)
  | store (c : ConnID)
  | unregisterMasterConn (c : ConnID)
  /-- a `sendRequest` caller inserts its ID -/
  | pendInsert (c : ConnID) (id : String)
  /-- a `sendRequest` caller removes its ID -/
  | pendDelete (c : ConnID) (id : String)

/-- Move a handler to a phase, writing packets to its client. -/
def State.move (s : State) (c : ConnID) (p : Phase) (out : List Packet) : State :=
  { s with
    phase := Function.update s.phase c (some p)
    sent := Function.update s.sent c (s.sent c ++ out) }

def challengePacket (challenge : String) : Packet :=
  { type := packetAuthChallenge, payload := some (AuthChallenge.marshal ⟨challenge⟩) }

def okPacket : Packet := { type := packetAuthOK }

def onHello (s : State) (c : ConnID) (line : Option String) : Phase → Option State
  | .hello => match readHello headerOrchestrator line with
    | .error _ => some (s.move c .returned [newError "invalid hello"])
    | .ok _ => some (s.move c .challenge [])
  | _ => none

/-- `GenerateChallenge`; the result of the write is ignored. -/
def onChallenge (s : State) (c : ConnID) (random : Bytes) : Phase → Option State
  | .challenge =>
    if random.length = 64 then
      let challenge := generateChallenge random
      some (s.move c (.auth challenge) [challengePacket challenge])
    else none
  | _ => none

/-- A packet read in the handshake or in the message loop. -/
def onPacket (C : Crypto) (masterWhitelist : Whitelist) (s : State) (c : ConnID) :
    Phase → Packet → Option State
  | .auth challenge, p => match checkAuthHello p with
    | .error e => some (s.move c .returned [newError e])
    | .ok authHello => some (s.move c (.proof challenge authHello) [])
  | .proof challenge authHello, p =>
    match checkAuthProof C masterWhitelist challenge authHello p with
    | none => some (s.move c .panicked [])
    | some (.error e) => some (s.move c .returned [newError e])
    | some (.ok cr) =>
      some { s.move c (.verified cr) [okPacket] with
        authed := Function.update s.authed c (some cr) }
  | .loop cr .reading, p =>
    some { s.move c (.loop cr (.resolving p)) [] with
      received := Function.update s.received c (s.received c ++ [p]) }
  | _, _ => none

/-- A read error ends the handshake, or the message loop. -/
def onReadError (s : State) (c : ConnID) : Phase → Option State
  | .auth _ => some (s.move c .returned [])
  | .proof _ _ => some (s.move c .returned [])
  | .loop cr .reading => some (s.move c (.leaving cr) [])
  | _ => none

def onRegister (s : State) (c : ConnID) : Phase → Option State
  | .verified cr => some { s.move c (.loop cr .reading) [] with
      conns := registerMasterConn s.conns cr.hello.id c }
  | _ => none

/-- A reply to a pending request is handed to its caller; any other packet
goes to the `switch`. -/
def onResolve (s : State) (c : ConnID) : Phase → Option State
  | .loop cr (.resolving p) =>
    if cr.hello.id ≠ "" ∧ resolves (s.pend c) p = true then
      some { s.move c (.loop cr .reading) [] with
        pend := Function.update s.pend c ((s.pend c).erase p.replyTo) }
    else match checkMessage cr.hello.id cr.hello.cluster p with
      | .error e => some (s.move c (.loop cr .reading) [newError e])
      | .ok mi => some (s.move c (.loop cr (.checking p mi)) [])
  | _ => none

def onAllowed (s : State) (c : ConnID) (verdict : Verdict) : Phase → Option State
  | .loop cr (.checking p mi) =>
    if mi.id ≠ "" ∧ verdict.passes = true then some (s.move c (.loop cr (.stamping p mi)) [])
    else some (s.move c (.loop cr .reading) [newError "update rejected"])
  | _ => none

def onNow (s : State) (c : ConnID) (time : Int) : Phase → Option State
  | .loop cr (.stamping p mi) => some (s.move c (.loop cr (.storing p ⟨mi, time⟩)) [])
  | _ => none

def onStore (s : State) (c : ConnID) : Phase → Option State
  | .loop cr (.storing p e) => some { s.move c (.loop cr .reading) [okPacket] with
      masters := s.masters.insert e.id e
      updates := ⟨c, cr, p, e⟩ :: s.updates }
  | _ => none

/-- The deferred `unregisterMasterConn`, after which the handler has
returned. -/
def onUnregister (s : State) (c : ConnID) : Phase → Option State
  | .leaving cr => some { s.move c .returned [] with
      conns := unregisterMasterConn s.conns cr.hello.id }
  | _ => none

def step (C : Crypto) (masterWhitelist : Whitelist) (s : State) : Action → Option State
  | .accept c => match s.phase c with
    | none => some (s.move c .hello [])
    | some _ => none
  | .readHello c line => (s.phase c).bind (onHello s c line)
  | .issueChallenge c random => (s.phase c).bind (onChallenge s c random)
  | .readPacket c (some p) => (s.phase c).bind fun ph => onPacket C masterWhitelist s c ph p
  | .readPacket c none => (s.phase c).bind (onReadError s c)
  | .registerMasterConn c => (s.phase c).bind (onRegister s c)
  | .resolveReply c => (s.phase c).bind (onResolve s c)
  | .isAllowed c verdict => (s.phase c).bind (onAllowed s c verdict)
  | .now c time => (s.phase c).bind (onNow s c time)
  | .store c => (s.phase c).bind (onStore s c)
  | .unregisterMasterConn c => (s.phase c).bind (onUnregister s c)
  | .pendInsert c id =>
    some { s with pend := Function.update s.pend c (insert id (s.pend c)) }
  | .pendDelete c id =>
    some { s with pend := Function.update s.pend c ((s.pend c).erase id) }

/-! ## What a step can do -/

/-- The moves within a message loop that write neither table. -/
inductive LoopMoves (c : ConnID) (cr : Credentials) : Action → LoopPhase → LoopPhase → Prop
  | refused {p e} (h : checkMessage cr.hello.id cr.hello.cluster p = .error e) :
      LoopMoves c cr (.resolveReply c) (.resolving p) .reading
  | update {p mi} (h : checkMessage cr.hello.id cr.hello.cluster p = .ok mi) :
      LoopMoves c cr (.resolveReply c) (.resolving p) (.checking p mi)
  | allowed {p mi verdict} (h : mi.id ≠ "" ∧ verdict.passes = true) :
      LoopMoves c cr (.isAllowed c verdict) (.checking p mi) (.stamping p mi)
  | disallowed {p mi verdict} (h : ¬ (mi.id ≠ "" ∧ verdict.passes = true)) :
      LoopMoves c cr (.isAllowed c verdict) (.checking p mi) .reading
  | now {p mi time} : LoopMoves c cr (.now c time) (.stamping p mi) (.storing p ⟨mi, time⟩)

/-- The actions of one handler's handshake. -/
def Action.handshake (c : ConnID) : Action → Prop
  | .readHello c' _ => c' = c
  | .readPacket c' _ => c' = c
  | .issueChallenge c' _ => c' = c
  | _ => False

/-- The phases in which a handshake can still be rejected. -/
def Phase.rejectable : Phase → Bool
  | .hello => true
  | .auth _ => true
  | .proof _ _ => true
  | _ => false

/-- The moves of one handler that leave the shared tables alone. -/
inductive Moves (C : Crypto) (masterWhitelist : Whitelist) (c : ConnID) :
    Action → Option Phase → Phase → Prop
  | accept : Moves C masterWhitelist c (.accept c) none .hello
  | hello (line) : Moves C masterWhitelist c (.readHello c line) (some .hello) .challenge
  | challenge {random} (h : random.length = 64) :
      Moves C masterWhitelist c (.issueChallenge c random) (some .challenge)
        (.auth (generateChallenge random))
  | auth {p challenge authHello} (h : checkAuthHello p = .ok authHello) :
      Moves C masterWhitelist c (.readPacket c (some p)) (some (.auth challenge))
        (.proof challenge authHello)
  | verifyPanic {p challenge authHello}
      (h : checkAuthProof C masterWhitelist challenge authHello p = none) :
      Moves C masterWhitelist c (.readPacket c (some p)) (some (.proof challenge authHello))
        .panicked
  | reject {a ph} (h : ph.rejectable = true) (ha : a.handshake c) :
      Moves C masterWhitelist c a (some ph) .returned
  | readError {cr} :
      Moves C masterWhitelist c (.readPacket c none) (some (.loop cr .reading)) (.leaving cr)
  | inLoop {a cr l l'} (h : LoopMoves c cr a l l') :
      Moves C masterWhitelist c a (some (.loop cr l)) (.loop cr l')

/-- Everything a step can do. -/
inductive Step (C : Crypto) (masterWhitelist : Whitelist) (s : State) : Action → State → Prop
  | move {c a p out} (hm : Moves C masterWhitelist c a (s.phase c) p) :
      Step C masterWhitelist s a (s.move c p out)
  | verify {c p challenge authHello cr} (hph : s.phase c = some (.proof challenge authHello))
      (h : checkAuthProof C masterWhitelist challenge authHello p = some (.ok cr)) :
      Step C masterWhitelist s (.readPacket c (some p))
        { s.move c (.verified cr) [okPacket] with
          authed := Function.update s.authed c (some cr) }
  | receive {c p cr} (hph : s.phase c = some (.loop cr .reading)) :
      Step C masterWhitelist s (.readPacket c (some p))
        { s.move c (.loop cr (.resolving p)) [] with
          received := Function.update s.received c (s.received c ++ [p]) }
  | register {c cr} (hph : s.phase c = some (.verified cr)) :
      Step C masterWhitelist s (.registerMasterConn c)
        { s.move c (.loop cr .reading) [] with
          conns := Orchestrator.registerMasterConn s.conns cr.hello.id c }
  | resolve {c cr p} (hph : s.phase c = some (.loop cr (.resolving p)))
      (h : resolves (s.pend c) p = true) :
      Step C masterWhitelist s (.resolveReply c)
        { s.move c (.loop cr .reading) [] with
          pend := Function.update s.pend c ((s.pend c).erase p.replyTo) }
  | store {c cr p e} (hph : s.phase c = some (.loop cr (.storing p e))) :
      Step C masterWhitelist s (.store c)
        { s.move c (.loop cr .reading) [okPacket] with
          masters := s.masters.insert e.id e
          updates := ⟨c, cr, p, e⟩ :: s.updates }
  | unregister {c cr} (hph : s.phase c = some (.leaving cr)) :
      Step C masterWhitelist s (.unregisterMasterConn c)
        { s.move c .returned [] with
          conns := Orchestrator.unregisterMasterConn s.conns cr.hello.id }
  | pendInsert {c id} : Step C masterWhitelist s (.pendInsert c id)
      { s with pend := Function.update s.pend c (insert id (s.pend c)) }
  | pendDelete {c id} : Step C masterWhitelist s (.pendDelete c id)
      { s with pend := Function.update s.pend c ((s.pend c).erase id) }

theorem onPacket_step {C : Crypto} {masterWhitelist : Whitelist} {s t : State} {c : ConnID}
    {ph : Phase} {p : Packet} (hph : s.phase c = some ph)
    (h : onPacket C masterWhitelist s c ph p = some t) :
    Step C masterWhitelist s (.readPacket c (some p)) t := by
  cases ph with
  | auth challenge =>
    simp only [onPacket] at h
    split at h <;> cases h
    · exact .move (hph ▸ .reject rfl rfl)
    · next hcheck => exact .move (hph ▸ .auth hcheck)
  | proof challenge authHello =>
    -- the panic of `ed25519.Verify` is a case here; the invariant excludes it
    simp only [onPacket] at h
    split at h <;> cases h
    · next hcheck => exact .move (hph ▸ .verifyPanic hcheck)
    · exact .move (hph ▸ .reject rfl rfl)
    · next hcheck => exact .verify hph hcheck
  | loop cr l =>
    -- only a loop at `ReadPacket` takes a packet off the connection
    cases l <;> simp only [onPacket, reduceCtorEq] at h
    cases h
    exact .receive hph
  | _ => simp [onPacket] at h

theorem onReadError_step {C : Crypto} {masterWhitelist : Whitelist} {s t : State} {c : ConnID}
    {ph : Phase} (hph : s.phase c = some ph) (h : onReadError s c ph = some t) :
    Step C masterWhitelist s (.readPacket c none) t := by
  cases ph with
  | auth challenge =>
    cases h
    exact .move (hph ▸ .reject rfl rfl)
  | proof challenge authHello =>
    cases h
    exact .move (hph ▸ .reject rfl rfl)
  | loop cr l =>
    cases l <;> simp only [onReadError, reduceCtorEq] at h
    cases h
    exact .move (hph ▸ .readError)
  | _ => simp [onReadError] at h

theorem onResolve_step {C : Crypto} {masterWhitelist : Whitelist} {s t : State} {c : ConnID}
    {ph : Phase} (hph : s.phase c = some ph) (h : onResolve s c ph = some t) :
    Step C masterWhitelist s (.resolveReply c) t := by
  cases ph with
  | loop cr l =>
    cases l <;> simp only [onResolve, reduceCtorEq] at h
    split at h
    · next hres =>
      cases h
      exact .resolve hph hres.2
    · -- no pending request: the `switch` on the packet type
      split at h <;> cases h
      · next hcheck => exact .move (hph ▸ .inLoop (.refused hcheck))
      · next hcheck => exact .move (hph ▸ .inLoop (.update hcheck))
  | _ => simp [onResolve] at h

theorem onAllowed_step {C : Crypto} {masterWhitelist : Whitelist} {s t : State} {c : ConnID}
    {verdict : Verdict} {ph : Phase} (hph : s.phase c = some ph)
    (h : onAllowed s c verdict ph = some t) :
    Step C masterWhitelist s (.isAllowed c verdict) t := by
  cases ph with
  | loop cr l =>
    cases l <;> simp only [onAllowed, reduceCtorEq] at h
    split at h <;> cases h
    · next hok => exact .move (hph ▸ .inLoop (.allowed hok))
    · next hok => exact .move (hph ▸ .inLoop (.disallowed hok))
  | _ => simp [onAllowed] at h

/-- Every step of the machine is one of `Step`. -/
theorem step_cases {C : Crypto} {masterWhitelist : Whitelist} {s t : State} {a : Action}
    (h : step C masterWhitelist s a = some t) : Step C masterWhitelist s a t := by
  cases a with
  | accept c =>
    simp only [step] at h
    split at h
    · next hph =>
      cases h
      exact .move (hph ▸ .accept)
    · cases h
  | readHello c line =>
    obtain ⟨ph, hph, h⟩ := Option.bind_eq_some_iff.mp h
    cases ph <;> simp only [onHello, reduceCtorEq] at h
    split at h <;> cases h
    · exact .move (hph ▸ .reject rfl rfl)
    · exact .move (hph ▸ .hello line)
  | issueChallenge c random =>
    obtain ⟨ph, hph, h⟩ := Option.bind_eq_some_iff.mp h
    cases ph <;> simp only [onChallenge, reduceCtorEq] at h
    split at h
    · next hlen =>
      cases h
      exact .move (hph ▸ .challenge hlen)
    · cases h
  | readPacket c result =>
    cases result with
    | none =>
      obtain ⟨ph, hph, h⟩ := Option.bind_eq_some_iff.mp h
      exact onReadError_step hph h
    | some p =>
      obtain ⟨ph, hph, h⟩ := Option.bind_eq_some_iff.mp h
      exact onPacket_step hph h
  | registerMasterConn c =>
    obtain ⟨ph, hph, h⟩ := Option.bind_eq_some_iff.mp h
    cases ph <;> simp only [onRegister, reduceCtorEq] at h
    cases h
    exact .register hph
  | resolveReply c =>
    obtain ⟨ph, hph, h⟩ := Option.bind_eq_some_iff.mp h
    exact onResolve_step hph h
  | isAllowed c verdict =>
    obtain ⟨ph, hph, h⟩ := Option.bind_eq_some_iff.mp h
    exact onAllowed_step hph h
  | now c time =>
    obtain ⟨ph, hph, h⟩ := Option.bind_eq_some_iff.mp h
    cases ph with
    | loop cr l =>
      cases l <;> simp only [onNow, reduceCtorEq] at h
      cases h
      exact .move (hph ▸ .inLoop .now)
    | _ => simp [onNow] at h
  | store c =>
    obtain ⟨ph, hph, h⟩ := Option.bind_eq_some_iff.mp h
    cases ph with
    | loop cr l =>
      cases l <;> simp only [onStore, reduceCtorEq] at h
      cases h
      exact .store hph
    | _ => simp [onStore] at h
  | unregisterMasterConn c =>
    obtain ⟨ph, hph, h⟩ := Option.bind_eq_some_iff.mp h
    cases ph <;> simp only [onUnregister, reduceCtorEq] at h
    cases h
    exact .unregister hph
  | pendInsert c id =>
    cases h
    exact .pendInsert
  | pendDelete c id =>
    cases h
    exact .pendDelete

/-! ## A master that runs `connectLoop` is registered -/

@[simp] theorem phase_move_self (s : State) (c : ConnID) (p : Phase) (out : List Packet) :
    (s.move c p out).phase c = some p := Function.update_self ..

theorem phase_move_ne (s : State) {c c' : ConnID} (p : Phase) (out : List Packet) (h : c' ≠ c) :
    (s.move c p out).phase c' = s.phase c' := Function.update_of_ne h ..

theorem sent_move_self (s : State) (c : ConnID) (p : Phase) (out : List Packet) :
    (s.move c p out).sent c = s.sent c ++ out := Function.update_self ..

theorem checkAuthHello_helloPacket {authHello : AuthHello} (hrole : authHello.role = "master") :
    checkAuthHello (helloPacket authHello) = .ok authHello := by
  rw [checkAuthHello, decodePayload_some rfl (AuthHello.unmarshal_marshal _)]
  simp [helloPacket, hrole]

theorem checkAuthProof_signaturePacket {C : Crypto} {masterWhitelist : Whitelist}
    {authHello : AuthHello} {pubKey sig : Bytes} {challenge : String}
    (hkey : Base64.decodeString authHello.pubKey = some pubKey)
    (hid : trimSpace authHello.id = keyID C pubKey)
    (hadmits : admitsMaster masterWhitelist authHello.cluster authHello.id = .ok ())
    (hlen : pubKey.length = publicKeySize) (hverify : C.verify pubKey challenge sig = true) :
    checkAuthProof C masterWhitelist challenge authHello (signaturePacket sig) =
      some (.ok ⟨authHello, pubKey, challenge, Base64.encodeToString sig⟩) := by
  have hauth : verifyMasterAuth C challenge (helloInfo authHello) (Base64.encodeToString sig) =
      some true := by
    rw [verifyMasterAuth_eq_true]
    exact ⟨pubKey, hkey, hid, verifyChallengeSignature_encode hlen hverify⟩
  rw [checkAuthProof, decodePayload_some rfl (AuthProof.unmarshal_marshal _)]
  simp [signaturePacket, hauth, hadmits, credentials, hkey]

/-- The steps of one connection whose client sends a hello and then a
signature. -/
def clientActions (authHello : AuthHello) (sig : Bytes) (c : ConnID) (random : Bytes) :
    List Action :=
  [.accept c, .readHello c (some headerOrchestrator), .issueChallenge c random,
    .readPacket c (some (helloPacket authHello)), .readPacket c (some (signaturePacket sig)),
    .registerMasterConn c]

/-- From any state that has not seen the connection, a client whose hello
passes the checks and whose signature verifies over the challenge issued to
it ends up in its message loop, registered under the ID of its hello; no
other handler is touched. -/
theorem run_clientActions {C : Crypto} {s : State} (authHello : AuthHello)
    (masterWhitelist : Whitelist) {pubKey sig random : Bytes} {c : ConnID}
    (hc : s.phase c = none)
    (hrole : authHello.role = "master")
    (hkey : Base64.decodeString authHello.pubKey = some pubKey)
    (hid : trimSpace authHello.id = keyID C pubKey)
    (hadmits : admitsMaster masterWhitelist authHello.cluster authHello.id = .ok ())
    (hlen : pubKey.length = publicKeySize) (hrandom : random.length = 64)
    (hverify : C.verify pubKey (generateChallenge random) sig = true) :
    ∃ t, Machine.run (step C masterWhitelist) s (clientActions authHello sig c random) = some t ∧
      t.phase c = some (.loop
        ⟨authHello, pubKey, generateChallenge random, Base64.encodeToString sig⟩ .reading) ∧
      (∀ c', c' ≠ c → t.phase c' = s.phase c') ∧
      t.conns = s.conns.register authHello.id c ∧ t.pend = s.pend ∧ t.masters = s.masters := by
  have hhello : readHello headerOrchestrator (some headerOrchestrator) = .ok () := by decide
  -- an ID that is a key's digest is not empty, so the registration takes effect
  have hne : authHello.id ≠ "" := id_ne_empty_of_verify hid
  -- one evaluation per action: every check succeeds by a hypothesis
  simp only [clientActions, Machine.run_cons, Machine.run_nil, step, hc, Option.bind_some,
    phase_move_self, onHello, hhello, onPacket, checkAuthHello_helloPacket hrole, onChallenge,
    hrandom, if_true, checkAuthProof_signaturePacket hkey hid hadmits hlen hverify, onRegister,
    registerMasterConn, hne, if_false]
  refine ⟨_, rfl, ?_, ?_, rfl, rfl, rfl⟩
  · exact Function.update_self ..
  · intro c' hc'
    simp [State.move, hc']

/-- The steps of one connection on which a master runs `connectLoop` up to
its registration. -/
def connectActions (C : Crypto) (mi : MasterInfo) (pubKey privKey : Bytes) (c : ConnID)
    (random : Bytes) : List Action :=
  [.accept c, .readHello c (some headerOrchestrator), .issueChallenge c random,
    .readPacket c (Master.authPacket mi pubKey).toOption,
    .readPacket c
      (Master.proofPacket C privKey (challengePacket (generateChallenge random))).toOption,
    .registerMasterConn c]

/-- The credentials such a connection ends with. -/
def connectCredentials (C : Crypto) (mi : MasterInfo) (pubKey privKey random : Bytes) :
    Credentials where
  hello := Master.authHello mi pubKey
  pubKey := pubKey
  challenge := generateChallenge random
  signature := Base64.encodeToString (C.sign privKey (generateChallenge random))

/-- What `connectLoop` sends is a hello and a signature. -/
theorem connectActions_eq (C : Crypto) (mi : MasterInfo) (pubKey privKey : Bytes) (c : ConnID)
    (random : Bytes) :
    connectActions C mi pubKey privKey c random =
      clientActions (Master.authHello mi pubKey) (C.sign privKey (generateChallenge random)) c
        random := by
  rw [connectActions, Master.authPacket_ok, Master.proofPacket_ok rfl rfl]
  rfl

/-- From any state that has not seen the connection, those steps end in its
message loop, registered under the key's ID, and touch no other handler. -/
theorem run_connectActions {C : Crypto} {masterWhitelist : Whitelist} {s : State}
    {mi : MasterInfo} {pubKey privKey random : Bytes} {c : ConnID} (hc : s.phase c = none)
    (hid : mi.id = keyID C pubKey) (hlen : pubKey.length = publicKeySize)
    (hrandom : random.length = 64)
    (hadmits : admitsMaster masterWhitelist mi.cluster mi.id = .ok ())
    (hverify : C.verify pubKey (generateChallenge random)
      (C.sign privKey (generateChallenge random)) = true) :
    ∃ t, Machine.run (step C masterWhitelist) s
        (connectActions C mi pubKey privKey c random) = some t ∧
      t.phase c = some (.loop (connectCredentials C mi pubKey privKey random) .reading) ∧
      (∀ c', c' ≠ c → t.phase c' = s.phase c') ∧
      t.conns = s.conns.register mi.id c ∧ t.pend = s.pend ∧ t.masters = s.masters := by
  have hid' : trimSpace (Master.authHello mi pubKey).id = keyID C pubKey := by
    show trimSpace mi.id = _
    rw [hid, trimSpace_keyID]
  rw [connectActions_eq]
  exact run_clientActions _ _ hc rfl (Base64.decodeString_encodeToString pubKey) hid' hadmits hlen
    hrandom hverify

/-- The steps by which a connection in its message loop reports a record
that the database allows. -/
def updateActions (mi : MasterInfo) (c : ConnID) (time : Int) : List Action :=
  [.readPacket c (Master.registerPacket mi).toOption, .resolveReply c, .isAllowed c none,
    .now c time, .store c]

/-- A master's report of its own identity passes the checks. -/
theorem checkMessage_report {type : String}
    (htype : type = packetMasterRegister ∨ type = packetMasterHeartbeat) {mi : MasterInfo}
    (hid : mi.id ≠ "") :
    checkMessage mi.id mi.cluster { type := type, payload := some mi.marshal } = .ok mi := by
  rw [checkMessage, if_pos htype, checkUpdate,
    decodePayload_some rfl (MasterInfo.unmarshal_marshal mi)]
  simp [hid]

theorem run_updateActions {C : Crypto} {masterWhitelist : Whitelist} {s : State}
    {mi : MasterInfo} {c : ConnID} {cr : Credentials} {time : Int}
    (hc : s.phase c = some (.loop cr .reading)) (hne : mi.id ≠ "") (hid : cr.hello.id = mi.id)
    (hcluster : cr.hello.cluster = mi.cluster) :
    ∃ t, Machine.run (step C masterWhitelist) s (updateActions mi c time) = some t ∧
      t.phase c = some (.loop cr .reading) ∧ (∀ c', c' ≠ c → t.phase c' = s.phase c') ∧
      t.conns = s.conns ∧ t.masters = s.masters.insert mi.id ⟨mi, time⟩ := by
  -- a report answers no request, whatever is pending
  have hres : ∀ pend : Finset String,
      resolves pend { type := packetMasterRegister, payload := some mi.marshal } = false :=
    fun pend => rfl
  rw [updateActions, Master.registerPacket_ok]
  simp only [Machine.run_cons, Machine.run_nil, step, hc, Option.bind_some, phase_move_self,
    Except.toOption, onPacket, onResolve, hres, Bool.false_eq_true, and_false, if_false, hid,
    hcluster, checkMessage_report (.inl rfl) hne, onAllowed, hne, Verdict.passes, ne_eq, not_false_eq_true,
    and_self, if_true, onNow, onStore]
  refine ⟨_, rfl, ?_, ?_, rfl, rfl⟩
  · exact Function.update_self ..
  · intro c' hc'
    simp [State.move, hc']

end Centralisd.Orchestrator
