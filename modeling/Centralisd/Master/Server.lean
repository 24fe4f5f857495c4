import Mathlib.Data.Finset.Card
import Mathlib.Logic.Function.Basic
import Centralisd.Lib.Machine
import Centralisd.Lib.KeyedTable
import Centralisd.Slave.Connect

/-!
# Centralisd — the master's slave server

`src/master/server.go` (`handleConnection`) and the node registry of
`src/master/nodes.go`, as a machine whose steps are those of any number of
`handleConnection` goroutines. A connection is a number; its phase is the
point its handler has reached. Everything a client or the clock decides
(lines and packets read, random bytes, write errors, unanswered heartbeats)
is part of the action.

`Inv` is the invariant of all runs: what a handler at each phase has
checked (`PhaseOK`), and how the registry relates to the handlers.
-/

namespace Centralisd.Master

/-- Connections, by order of acceptance or any other numbering. -/
abbrev ConnID := Nat

/-! ## The handshake checks of `handleConnection` -/

/-- The allow-list stage: an empty set admits everyone. -/
def admitsNode (allowedNodes : Finset String) (id : String) : Bool :=
  if 0 < allowedNodes.card then decide (id ∈ allowedNodes) else true

/-- From the auth packet to the hello and its public key, or the text of the
error packet. -/
def checkAuthHello (C : Crypto) (allowedNodes : Finset String) (packet : Packet) :
    Except String (AuthHello × Bytes) :=
  if packet.type ≠ packetAuthHello then .error "auth wrong type"
  else match decodePayload AuthHello.unmarshal packet with
    | .error _ => .error "auth payload invalid"
    | .ok authHello =>
      if authHello.role ≠ "slave" then .error "auth wrong role"
      else match Base64.decodeString authHello.pubKey with
        | none => .error "invalid pubkey"
        | some pubKeyBytes =>
          if verifyIDForPublicKey C authHello.id pubKeyBytes = false then .error "id mismatch"
          else if admitsNode allowedNodes authHello.id = false then .error "node not allowed"
          else .ok (authHello, pubKeyBytes)

/-- From the proof packet to the signature it carries; `none` is a panic. -/
def checkAuthProof (C : Crypto) (pubKey : Bytes) (challenge : String) (packet : Packet) :
    Option (Except String String) :=
  if packet.type ≠ packetAuthProof then some (.error "auth proof wrong type")
  else match decodePayload AuthProof.unmarshal packet with
    | .error _ => some (.error "auth proof invalid")
    | .ok proof => match verifyChallengeSignature C pubKey challenge proof.signature with
      | none => none
      | some false => some (.error "auth failed")
      | some true => some (.ok proof.signature)

/-! ## The node registry (`nodes.go`) -/

/-- `nodeRegistry`, with the registrations made so far. -/
abbrev Registry := KeyedTable.State String ConnID

/-- `registerNode`; the nil result for an empty ID is `none`. -/
def registerNode (nodes : Registry) (id : String) (conn : ConnID) : Option Registry :=
  if id = "" then none else some (nodes.register id conn)

/-- `unregisterNode`: by ID, whoever holds it. -/
def unregisterNode (nodes : Registry) (id : String) : Registry :=
  if id = "" then nodes else nodes.unregister id

/-- The lookup of `sendCommandToNodeWait`. -/
def lookupNode (nodes : Registry) (id : String) : Except String ConnID :=
  if id = "" then .error "node id is empty"
  else match nodes.owner id with
    | none => .error "node not connected"
    | some n => .ok n

/-- `listConnectedNodeIDs`, in the order of the table's entries. -/
def listConnectedNodeIDs (nodes : Registry) : List String := nodes.table.keys

/-! ## `handleConnection` as a machine -/

/-- How far a handler has come. -/
inductive Phase where
  /-- at `ReadHello` -/
  | hello
  /-- at `ReadPacket` for the auth packet -/
  | auth
  /-- about to issue the challenge -/
  | challenge (authHello : AuthHello) (pubKey : Bytes)
  /-- at `ReadPacket` for the proof -/
  | proof (authHello : AuthHello) (pubKey : Bytes) (challenge : String)
  /-- `auth.ok` written, at `registerNode` -/
  | verified (cr : Credentials)
  /-- in the heartbeat loop -/
  | serving (cr : Credentials)
  /-- a heartbeat failed, at the deferred `unregisterNode` -/
  | leaving (cr : Credentials)
  | returned
  | panicked
  deriving DecidableEq

structure State where
  /-- `none` before the connection is accepted -/
  phase : ConnID → Option Phase
  nodes : Registry
  /-- the packets written to each client -/
  sent : ConnID → List Packet

def init : State := ⟨fun _ => none, KeyedTable.empty, fun _ => []⟩

inductive Action where
  | accept (c : ConnID)
  /-- `ReadHello` returns, on the line read or an error -/
  | readHello (c : ConnID) (line : Option String)
  /-- `ReadPacket` returns, with a packet or an error -/
  | readPacket (c : ConnID) (result : Option Packet)
  | issueChallenge (c : ConnID) (random : Bytes) (written : Bool)
  | registerNode (c : ConnID)
  /-- the heartbeat `sendRequest` returns -/
  | heartbeat (c : ConnID) (answered : Bool)
  | unregisterNode (c : ConnID)

/-- Move a handler to a phase, writing packets to its client. -/
def State.move (s : State) (c : ConnID) (p : Phase) (out : List Packet) : State :=
  { s with
    phase := Function.update s.phase c (some p)
    sent := Function.update s.sent c (s.sent c ++ out) }

def challengePacket (challenge : String) : Packet :=
  { type := packetAuthChallenge, payload := some (AuthChallenge.marshal ⟨challenge⟩) }

def okPacket : Packet := { type := packetAuthOK }

/-- A packet read in one of the two reading phases of the handshake. -/
def onPacket (C : Crypto) (allowedNodes : Finset String) (s : State) (c : ConnID) :
    Phase → Packet → Option State
  | .auth, p => match checkAuthHello C allowedNodes p with
    | .error e => some (s.move c .returned [newError e])
    | .ok (authHello, pubKey) => some (s.move c (.challenge authHello pubKey) [])
  | .proof authHello pubKey challenge, p => match checkAuthProof C pubKey challenge p with
    | none => some (s.move c .panicked [])
    | some (.error e) => some (s.move c .returned [newError e])
    | some (.ok sig) =>
      some (s.move c (.verified ⟨authHello, pubKey, challenge, sig⟩) [okPacket])
  | _, _ => none

/-- A read error in one of the two reading phases ends the handler. -/
def onReadError (s : State) (c : ConnID) : Phase → Option State
  | .auth => some (s.move c .returned [])
  | .proof _ _ _ => some (s.move c .returned [])
  | _ => none

/-- `GenerateChallenge` and the write of the challenge packet. -/
def onChallenge (s : State) (c : ConnID) (random : Bytes) (written : Bool) :
    Phase → Option State
  | .challenge authHello pubKey =>
    if random.length = 64 then
      if written then
        let challenge := generateChallenge random
        some (s.move c (.proof authHello pubKey challenge) [challengePacket challenge])
      else some (s.move c .returned [])
    else none
  | _ => none

/-- `registerNode`; on its nil result `readLoop` dereferences nil. -/
def onRegister (s : State) (c : ConnID) : Phase → Option State
  | .verified cr => match registerNode s.nodes cr.hello.id c with
    | none => some (s.move c .panicked [])
    | some nodes => some { s.move c (.serving cr) [] with nodes := nodes }
  | _ => none

/-- One round of the heartbeat loop. -/
def onHeartbeat (s : State) (c : ConnID) (answered : Bool) : Phase → Option State
  | .serving cr => if answered then some s else some (s.move c (.leaving cr) [])
  | _ => none

/-- The deferred `unregisterNode`, after which the handler has returned. -/
def onUnregister (s : State) (c : ConnID) : Phase → Option State
  | .leaving cr =>
    some { s.move c .returned [] with nodes := unregisterNode s.nodes cr.hello.id }
  | _ => none

def onHello (s : State) (c : ConnID) (line : Option String) : Phase → Option State
  | .hello => match readHello headerMasterSlave line with
    | .error _ => some (s.move c .returned [newError "invalid hello"])
    | .ok _ => some (s.move c .auth [])
  | _ => none

def step (C : Crypto) (allowedNodes : Finset String) (s : State) : Action → Option State
  | .accept c => match s.phase c with
    | none => some (s.move c .hello [])
    | some _ => none
  | .readHello c line => (s.phase c).bind (onHello s c line)
  | .readPacket c (some p) => (s.phase c).bind fun ph => onPacket C allowedNodes s c ph p
  | .readPacket c none => (s.phase c).bind (onReadError s c)
  | .issueChallenge c random written => (s.phase c).bind (onChallenge s c random written)
  | .registerNode c => (s.phase c).bind (onRegister s c)
  | .heartbeat c answered => (s.phase c).bind (onHeartbeat s c answered)
  | .unregisterNode c => (s.phase c).bind (onUnregister s c)

/-! ## What a step can do -/

/-- The actions of one handler's handshake. -/
def Action.handshake (c : ConnID) : Action → Prop
  | .readHello c' _ => c' = c
  | .readPacket c' _ => c' = c
  | .issueChallenge c' _ _ => c' = c
  | _ => False

/-- The moves of one handler that leave the registry alone. -/
inductive Moves (C : Crypto) (allowedNodes : Finset String) (c : ConnID) :
    Action → Option Phase → Phase → Prop
  | accept : Moves C allowedNodes c (.accept c) none .hello
  | hello (line) : Moves C allowedNodes c (.readHello c line) (some .hello) .auth
  | auth {p authHello pubKey} (h : checkAuthHello C allowedNodes p = .ok (authHello, pubKey)) :
      Moves C allowedNodes c (.readPacket c (some p)) (some .auth) (.challenge authHello pubKey)
  | challenge {authHello pubKey random} (h : random.length = 64) :
      Moves C allowedNodes c (.issueChallenge c random true) (some (.challenge authHello pubKey))
        (.proof authHello pubKey (generateChallenge random))
  | proof {p authHello pubKey challenge sig}
      (h : checkAuthProof C pubKey challenge p = some (.ok sig)) :
      Moves C allowedNodes c (.readPacket c (some p)) (some (.proof authHello pubKey challenge))
        (.verified ⟨authHello, pubKey, challenge, sig⟩)
  | verifyPanic {p authHello pubKey challenge} (h : checkAuthProof C pubKey challenge p = none) :
      Moves C allowedNodes c (.readPacket c (some p)) (some (.proof authHello pubKey challenge))
        .panicked
  | nilNode {cr} (h : cr.hello.id = "") :
      Moves C allowedNodes c (.registerNode c) (some (.verified cr)) .panicked
  | reject {a ph} (h : ∀ cr, ph ≠ .verified cr ∧ ph ≠ .serving cr ∧ ph ≠ .leaving cr)
      (ha : a.handshake c) :
      Moves C allowedNodes c a (some ph) .returned
  | heartbeatFailed {cr} :
      Moves C allowedNodes c (.heartbeat c false) (some (.serving cr)) (.leaving cr)

/-- Everything a step can do. -/
inductive Step (C : Crypto) (allowedNodes : Finset String) (s : State) : Action → State → Prop
  | move {c a p out} (hm : Moves C allowedNodes c a (s.phase c) p) :
      Step C allowedNodes s a (s.move c p out)
  | register {c cr} (hph : s.phase c = some (.verified cr)) (hid : cr.hello.id ≠ "") :
      Step C allowedNodes s (.registerNode c)
        { s.move c (.serving cr) [] with nodes := s.nodes.register cr.hello.id c }
  | answered {c} : Step C allowedNodes s (.heartbeat c true) s
  | unregister {c cr} (hph : s.phase c = some (.leaving cr)) :
      Step C allowedNodes s (.unregisterNode c)
        { s.move c .returned [] with nodes := Master.unregisterNode s.nodes cr.hello.id }

/-- Every step of the machine is one of `Step`. -/
theorem step_cases {C : Crypto} {allowedNodes : Finset String} {s t : State} {a : Action}
    (h : step C allowedNodes s a = some t) : Step C allowedNodes s a t := by
  cases a with
  | accept c =>
    simp only [step] at h
    split at h
    · next hph =>
      cases h
      exact .move (hph ▸ .accept)
    · cases h
  | readHello c line =>
    obtain ⟨ph, hph, h⟩ := Option.bind_eq_some_iff.mp h
    cases ph <;> simp only [onHello, reduceCtorEq] at h
    split at h <;> cases h
    · exact .move (hph ▸ .reject (by simp) rfl)
    · exact .move (hph ▸ .hello line)
  | readPacket c result =>
    cases result with
    | none =>
      obtain ⟨ph, hph, h⟩ := Option.bind_eq_some_iff.mp h
      cases ph <;> simp only [onReadError, reduceCtorEq] at h <;> cases h <;>
        exact .move (hph ▸ .reject (by simp) rfl)
    | some p =>
      obtain ⟨ph, hph, h⟩ := Option.bind_eq_some_iff.mp h
      -- of all phases only `auth` and `proof` read a packet
      cases ph <;> simp only [onPacket, reduceCtorEq] at h
      · split at h <;> cases h
        · exact .move (hph ▸ .reject (by simp) rfl)
        · next hcheck => exact .move (hph ▸ .auth hcheck)
      · split at h <;> cases h
        · next hcheck => exact .move (hph ▸ .verifyPanic hcheck)
        · exact .move (hph ▸ .reject (by simp) rfl)
        · next hcheck => exact .move (hph ▸ .proof hcheck)
  | issueChallenge c random written =>
    obtain ⟨ph, hph, h⟩ := Option.bind_eq_some_iff.mp h
    cases ph <;> simp only [onChallenge, reduceCtorEq] at h
    split at h
    · next hlen =>
      split at h <;> cases h
      · next hw =>
        subst hw
        exact .move (hph ▸ .challenge hlen)
      · exact .move (hph ▸ .reject (by simp) rfl)
    · cases h
  | registerNode c =>
    obtain ⟨ph, hph, h⟩ := Option.bind_eq_some_iff.mp h
    cases ph <;> simp only [onRegister, registerNode, reduceCtorEq] at h
    rename_i cr
    by_cases hid : cr.hello.id = ""
    · -- `registerNode` returns nil and `readLoop` dereferences it
      simp only [hid, if_true] at h
      cases h
      exact .move (hph ▸ .nilNode hid)
    · simp only [hid, if_false] at h
      cases h
      exact .register hph hid
  | heartbeat c answered =>
    obtain ⟨ph, hph, h⟩ := Option.bind_eq_some_iff.mp h
    cases ph <;> simp only [onHeartbeat, reduceCtorEq] at h
    cases answered with
    | true =>
      cases h
      exact .answered
    | false =>
      cases h
      exact .move (hph ▸ .heartbeatFailed)
  | unregisterNode c =>
    obtain ⟨ph, hph, h⟩ := Option.bind_eq_some_iff.mp h
    cases ph <;> simp only [onUnregister, reduceCtorEq] at h
    cases h
    exact .unregister hph

/-! ## What a handler has checked at each phase -/

/-- The hello of a handler past the auth packet. -/
structure HelloOK (C : Crypto) (allowedNodes : Finset String) (authHello : AuthHello)
    (pubKey : Bytes) : Prop where
  role : authHello.role = "slave"
  id : trimSpace authHello.id = keyID C pubKey
  allowed : 0 < allowedNodes.card → authHello.id ∈ allowedNodes

theorem admitsNode_iff (allowedNodes : Finset String) (id : String) :
    admitsNode allowedNodes id = true ↔ (0 < allowedNodes.card → id ∈ allowedNodes) := by
  unfold admitsNode
  split
  · next hpos => simp [hpos]
  · next hpos => simp [hpos]

theorem checkAuthHello_ok {C : Crypto} {allowedNodes : Finset String} {p : Packet}
    {authHello : AuthHello} {pubKey : Bytes}
    (h : checkAuthHello C allowedNodes p = .ok (authHello, pubKey)) :
    decodePayload AuthHello.unmarshal p = .ok authHello ∧
      HelloOK C allowedNodes authHello pubKey := by
  -- the checks in the order of the source, each with the error it answers
  unfold checkAuthHello at h
  split at h
  · -- "auth wrong type"
    cases h
  · split at h
    · -- "auth payload invalid"
      cases h
    · next hello hdec =>
      split at h
      · -- "auth wrong role"
        cases h
      · next hrole =>
        split at h
        · -- "invalid pubkey"
          cases h
        · split at h
          · -- "id mismatch"
            cases h
          · next hid =>
            split at h
            · -- "node not allowed"
              cases h
            · next hallow =>
              simp only [Except.ok.injEq, Prod.mk.injEq] at h
              obtain ⟨rfl, rfl⟩ := h
              rw [Bool.not_eq_false] at hid hallow
              exact ⟨hdec, not_not.mp hrole, (verifyIDForPublicKey_iff C _ _).mp hid,
                (admitsNode_iff _ _).mp hallow⟩

theorem checkAuthProof_ne_none (C : Crypto) (pubKey : Bytes) (challenge : String) (p : Packet) :
    checkAuthProof C pubKey challenge p ≠ none := by
  unfold checkAuthProof
  split
  · exact Option.some_ne_none _
  · split
    · exact Option.some_ne_none _
    · split
      · next hverify => exact absurd hverify (verifyChallengeSignature_ne_none C _ _ _)
      · exact Option.some_ne_none _
      · exact Option.some_ne_none _

theorem checkAuthProof_ok {C : Crypto} (authHello : AuthHello) {pubKey : Bytes}
    {challenge sig : String} {p : Packet}
    (h : checkAuthProof C pubKey challenge p = some (.ok sig)) :
    p.type = packetAuthProof ∧ decodePayload AuthProof.unmarshal p = .ok ⟨sig⟩ ∧
      Credentials.Proven C ⟨authHello, pubKey, challenge, sig⟩ := by
  unfold checkAuthProof at h
  split at h
  · -- "auth proof wrong type"
    cases h
  · next htype =>
    split at h
    · -- "auth proof invalid"
      cases h
    · next proof hdec =>
      split at h
      · cases h
      · -- "auth failed"
        cases h
      · next hverify =>
        simp only [Option.some.injEq, Except.ok.injEq] at h
        subst h
        exact ⟨not_not.mp htype, hdec, (verifyChallengeSignature_eq_true C _ _ _).mp hverify⟩

/-- The credentials of a handler past the proof. -/
structure CredentialsOK (C : Crypto) (allowedNodes : Finset String) (cr : Credentials) : Prop where
  hello : HelloOK C allowedNodes cr.hello cr.pubKey
  proven : cr.Proven C

/-- What holds at each phase, whatever the client sent. -/
def PhaseOK (C : Crypto) (allowedNodes : Finset String) : Phase → Prop
  | .challenge authHello pubKey => HelloOK C allowedNodes authHello pubKey
  | .proof authHello pubKey _ => HelloOK C allowedNodes authHello pubKey
  | .verified cr => CredentialsOK C allowedNodes cr
  | .serving cr => CredentialsOK C allowedNodes cr
  | .leaving cr => CredentialsOK C allowedNodes cr
  | .panicked => False
  | _ => True

theorem CredentialsOK.id_ne_empty {C : Crypto} {allowedNodes : Finset String} {cr : Credentials}
    (h : CredentialsOK C allowedNodes cr) : cr.hello.id ≠ "" :=
  id_ne_empty_of_verify h.hello.id

/-- A move keeps what the phases say. -/
theorem Moves.phaseOK {C : Crypto} {allowedNodes : Finset String} {c : ConnID} {a : Action}
    {ph : Option Phase} {p : Phase} (hm : Moves C allowedNodes c a ph p)
    (hph : ∀ q, ph = some q → PhaseOK C allowedNodes q) : PhaseOK C allowedNodes p := by
  cases hm with
  | accept => trivial
  | hello line => trivial
  | auth h => exact (checkAuthHello_ok h).2
  | challenge h => exact hph (.challenge _ _) rfl
  | proof h => exact ⟨hph _ rfl, (checkAuthProof_ok _ h).2.2⟩
  | verifyPanic h => exact absurd h (checkAuthProof_ne_none C _ _ _)
  | nilNode h => exact absurd h (hph _ rfl).id_ne_empty
  | reject h ha => trivial
  | heartbeatFailed => exact hph (.serving _) rfl

/-! ## A slave that runs `Connect` is registered -/

@[simp] theorem phase_move_self (s : State) (c : ConnID) (p : Phase) (out : List Packet) :
    (s.move c p out).phase c = some p := Function.update_self ..

theorem phase_move_ne (s : State) {c c' : ConnID} (p : Phase) (out : List Packet) (h : c' ≠ c) :
    (s.move c p out).phase c' = s.phase c' := Function.update_of_ne h ..

theorem sent_move_self (s : State) (c : ConnID) (p : Phase) (out : List Packet) :
    (s.move c p out).sent c = s.sent c ++ out := Function.update_self ..

@[simp] theorem nodes_move (s : State) (c : ConnID) (p : Phase) (out : List Packet) :
    (s.move c p out).nodes = s.nodes := rfl

theorem checkAuthHello_helloPacket {C : Crypto} {allowedNodes : Finset String}
    {authHello : AuthHello} {pubKey : Bytes} (hrole : authHello.role = "slave")
    (hkey : Base64.decodeString authHello.pubKey = some pubKey)
    (hid : trimSpace authHello.id = keyID C pubKey)
    (hallowed : admitsNode allowedNodes authHello.id = true) :
    checkAuthHello C allowedNodes (helloPacket authHello) = .ok (authHello, pubKey) := by
  have hverify := (verifyIDForPublicKey_iff C _ _).mpr hid
  rw [checkAuthHello, decodePayload_some rfl (AuthHello.unmarshal_marshal _)]
  simp [helloPacket, hrole, hkey, hverify, hallowed]

theorem checkAuthProof_signaturePacket {C : Crypto} {pubKey sig : Bytes} {challenge : String}
    (hlen : pubKey.length = publicKeySize) (hverify : C.verify pubKey challenge sig = true) :
    checkAuthProof C pubKey challenge (signaturePacket sig) =
      some (.ok (Base64.encodeToString sig)) := by
  rw [checkAuthProof, decodePayload_some rfl (AuthProof.unmarshal_marshal _)]
  simp [signaturePacket, verifyChallengeSignature_encode hlen hverify]

/-- The steps of one connection whose client sends a hello and then a
signature. -/
def clientActions (authHello : AuthHello) (sig : Bytes) (c : ConnID) (random : Bytes) :
    List Action :=
  [.accept c, .readHello c (some headerMasterSlave),
    .readPacket c (some (helloPacket authHello)), .issueChallenge c random true,
    .readPacket c (some (signaturePacket sig)), .registerNode c]

/-- From any state that has not seen the connection, a client whose hello
passes the checks and whose signature verifies over the challenge issued to
it ends up registered under the ID of its hello; no other handler is
touched. -/
theorem run_clientActions {C : Crypto} {allowedNodes : Finset String} {s : State}
    (authHello : AuthHello) {pubKey sig random : Bytes} {c : ConnID} (hc : s.phase c = none)
    (hrole : authHello.role = "slave") (hkey : Base64.decodeString authHello.pubKey = some pubKey)
    (hid : trimSpace authHello.id = keyID C pubKey)
    (hallowed : admitsNode allowedNodes authHello.id = true)
    (hlen : pubKey.length = publicKeySize) (hrandom : random.length = 64)
    (hverify : C.verify pubKey (generateChallenge random) sig = true) :
    ∃ t, Machine.run (step C allowedNodes) s (clientActions authHello sig c random) = some t ∧
      t.phase c = some (.serving
        ⟨authHello, pubKey, generateChallenge random, Base64.encodeToString sig⟩) ∧
      (∀ c', c' ≠ c → t.phase c' = s.phase c') ∧
      t.nodes = s.nodes.register authHello.id c := by
  have hhello : readHello headerMasterSlave (some headerMasterSlave) = .ok () := by decide
  -- the key's digest is not empty, so `registerNode` does not return nil
  have hne : authHello.id ≠ "" := id_ne_empty_of_verify hid
  -- one evaluation per action: every check succeeds by a hypothesis
  simp only [clientActions, Machine.run_cons, Machine.run_nil, step, hc, Option.bind_some,
    phase_move_self, onHello, hhello, onPacket,
    checkAuthHello_helloPacket hrole hkey hid hallowed, onChallenge, hrandom, if_true,
    checkAuthProof_signaturePacket hlen hverify, onRegister, registerNode, hne, if_false,
    nodes_move]
  refine ⟨_, rfl, ?_, ?_, rfl⟩
  · exact phase_move_self _ _ _ []
  · intro c' hc'
    simp [phase_move_ne _ _ _ hc']

/-- The steps of one connection on which a slave runs `Connect`: its hello
line, its auth packet, and its answer to the challenge issued to it. -/
def connectActions (C : Crypto) (pubKey privKey : Bytes) (c : ConnID) (random : Bytes) :
    List Action :=
  [.accept c, .readHello c (some headerMasterSlave),
    .readPacket c (Slave.authPacket C pubKey).toOption,
    .issueChallenge c random true,
    .readPacket c
      (Slave.proofPacket C privKey (challengePacket (generateChallenge random))).toOption,
    .registerNode c]

/-- The credentials such a connection ends with. -/
def connectCredentials (C : Crypto) (pubKey privKey random : Bytes) : Credentials where
  hello := Slave.authHello C pubKey
  pubKey := pubKey
  challenge := generateChallenge random
  signature := Base64.encodeToString (C.sign privKey (generateChallenge random))

/-- What `Connect` sends is a hello and a signature. -/
theorem connectActions_eq {C : Crypto} {pubKey privKey random : Bytes} (c : ConnID)
    (hlen : pubKey.length = publicKeySize) (hpriv : privKey.length ≠ 0)
    (hrandom : random.length = 64) :
    connectActions C pubKey privKey c random =
      clientActions (Slave.authHello C pubKey) (C.sign privKey (generateChallenge random)) c
        random := by
  rw [connectActions, Slave.authPacket_ok hlen, Slave.proofPacket_ok hpriv hrandom rfl rfl]
  rfl

/-- From any state that has not seen the connection, those steps end in its
registration under the key's ID, and touch no other handler. -/
theorem run_connectActions {C : Crypto} {allowedNodes : Finset String} {s : State}
    {pubKey privKey random : Bytes} {c : ConnID} (hc : s.phase c = none)
    (hlen : pubKey.length = publicKeySize) (hpriv : privKey.length ≠ 0)
    (hrandom : random.length = 64)
    (hallowed : admitsNode allowedNodes (keyID C pubKey) = true)
    (hverify : C.verify pubKey (generateChallenge random)
      (C.sign privKey (generateChallenge random)) = true) :
    ∃ t, Machine.run (step C allowedNodes) s (connectActions C pubKey privKey c random) = some t ∧
      t.phase c = some (.serving (connectCredentials C pubKey privKey random)) ∧
      (∀ c', c' ≠ c → t.phase c' = s.phase c') ∧
      t.nodes = s.nodes.register (keyID C pubKey) c := by
  rw [connectActions_eq c hlen hpriv hrandom]
  exact run_clientActions _ hc rfl (Base64.decodeString_encodeToString pubKey)
    (trimSpace_keyID C pubKey) hallowed hlen hrandom hverify

end Centralisd.Master
