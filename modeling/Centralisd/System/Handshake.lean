import Centralisd.Lib.Dialogue
import Centralisd.Master.Server
import Centralisd.Orchestrator.Server

/-!
# Centralisd — both halves of the handshakes

The clients of the two handshakes as programs that write and read, composed
with the servers' handlers over the two streams of a connection:
`slave.Connect` with `handleConnection`, and `connectLoop` with `handleConn`.
Either side moves whenever it can.

* `handshake_completes` — for every key pair, challenge and configuration,
  however the two sides interleave, an admitted client ends with `auth.ok`
  and registered under its key's ID, and every report that a master builds
  from the same configuration passes the identity checks.
-/

namespace Centralisd

open Dialogue

/-- A key pair whose signatures verify. -/
structure KeyPair (C : Crypto) where
  pubKey : Bytes
  privKey : Bytes
  pubKey_length : pubKey.length = publicKeySize
  privKey_length : privKey.length ≠ 0
  verifies : ∀ message, C.verify pubKey message (C.sign privKey message) = true

/-- What a client writes: the hello line, or a packet. A reader of the one
rejects the other. -/
inductive Frame where
  | line (text : String)
  | packet (p : Packet)

def Frame.asLine : Frame → Option String
  | .line text => some text
  | .packet _ => none

def Frame.asPacket : Frame → Option Packet
  | .line _ => none
  | .packet p => some p

/-- `WriteHello`. -/
def writeHello (header : String) : Except String Frame :=
  if trimSpace header = "" then .error "header empty" else .ok (.line (trimSpace header))

/-! ## The slave and the master -/

namespace Slave

/-- Where `Connect` is, up to the packet loop. -/
inductive ConnectPhase where
  | writeHello
  | writeAuth
  | readChallenge
  | writeProof (proofPacket : Packet)
  | readResponse
  /-- `auth.ok` was read -/
  | connected
  /-- `os.Exit` or return, with what is logged -/
  | exited (text : String)

/-- A write, or the exit when its packet could not be made. -/
def writeOr {F : Type} (frame : Except String F) (next : ConnectPhase) :
    Move ConnectPhase Packet F :=
  match frame with
  | .error err => .go [] (.exited err)
  | .ok f => .go [f] next

def connect (C : Crypto) (keys : KeyPair C) : ConnectPhase → Move ConnectPhase Packet Frame
  | .writeHello => writeOr (Centralisd.writeHello headerMasterSlave) .writeAuth
  | .writeAuth => writeOr ((authPacket C keys.pubKey).map Frame.packet) .readChallenge
  | .readChallenge => .receive fun challengePacket =>
    match proofPacket C keys.privKey challengePacket with
    | .error err => ([], .exited err)
    | .ok p => ([], .writeProof p)
  | .writeProof p => .go [.packet p] .readResponse
  | .readResponse => .receive fun respPacket =>
    if respPacket.type = packetAuthOK then ([], .connected) else ([], .exited "auth failed")
  | .connected => .stop
  | .exited _ => .stop

end Slave

namespace Master

/-- A step of the server, with the packets it writes to the client of `c`. -/
def advance (C : Crypto) (allowedNodes : Finset String) (c : ConnID) (s : State) (a : Action) :
    List Packet × State :=
  match step C allowedNodes s a with
  | none => ([], s)
  | some t => ((t.sent c).drop (s.sent c).length, t)

/-- `handleConnection` for the connection `c`, up to its heartbeat loop. -/
def handleConnection (C : Crypto) (allowedNodes : Finset String) (c : ConnID) (random : Bytes)
    (s : State) : Move State Frame Packet :=
  let go := fun a => Move.go (advance C allowedNodes c s a).1 (advance C allowedNodes c s a).2
  match s.phase c with
  | none => go (.accept c)
  | some .hello => .receive fun f => advance C allowedNodes c s (.readHello c f.asLine)
  | some .auth => .receive fun f => advance C allowedNodes c s (.readPacket c f.asPacket)
  | some (.challenge _ _) => go (.issueChallenge c random true)
  | some (.proof _ _ _) => .receive fun f => advance C allowedNodes c s (.readPacket c f.asPacket)
  | some (.verified _) => go (.registerNode c)
  | some _ => .stop

theorem advance_eq {C : Crypto} {allowedNodes : Finset String} {c : ConnID} {s t : State}
    {a : Action} {out : List Packet} (h : step C allowedNodes s a = some t)
    (hsent : t.sent c = s.sent c ++ out) : advance C allowedNodes c s a = (out, t) := by
  rw [advance, h]
  dsimp only
  rw [hsent, List.drop_left]

section Steps

variable (C : Crypto) (allowedNodes : Finset String) (random : Bytes) {c : ConnID} {s : State}

theorem handleConnection_accept (hph : s.phase c = none) :
    handleConnection C allowedNodes c random s = .go [] (s.move c .hello []) := by
  have hstep : step C allowedNodes s (.accept c) = some (s.move c .hello []) := by
    simp only [step, hph]
  simp only [handleConnection, hph, advance_eq hstep (sent_move_self s c .hello [])]

theorem handleConnection_hello (hph : s.phase c = some .hello) :
    ∃ next, handleConnection C allowedNodes c random s = .receive next ∧
      next (.line headerMasterSlave) = ([], s.move c .auth []) := by
  have hhello : readHello headerMasterSlave (some headerMasterSlave) = .ok () := by decide
  have hstep : step C allowedNodes s (.readHello c (some headerMasterSlave)) =
      some (s.move c .auth []) := by
    simp only [step, hph, Option.bind_some, onHello, hhello]
  refine ⟨_, by simp only [handleConnection, hph]; rfl, ?_⟩
  exact advance_eq hstep (sent_move_self ..)

theorem handleConnection_auth {p : Packet} {authHello : AuthHello} {pubKey : Bytes}
    (hph : s.phase c = some .auth)
    (hcheck : checkAuthHello C allowedNodes p = .ok (authHello, pubKey)) :
    ∃ next, handleConnection C allowedNodes c random s = .receive next ∧
      next (.packet p) = ([], s.move c (.challenge authHello pubKey) []) := by
  have hstep : step C allowedNodes s (.readPacket c (some p)) =
      some (s.move c (.challenge authHello pubKey) []) := by
    simp only [step, hph, Option.bind_some, onPacket, hcheck]
  refine ⟨_, by simp only [handleConnection, hph]; rfl, ?_⟩
  exact advance_eq hstep (sent_move_self ..)

theorem handleConnection_challenge {authHello : AuthHello} {pubKey : Bytes}
    (hph : s.phase c = some (.challenge authHello pubKey)) (hrandom : random.length = 64) :
    handleConnection C allowedNodes c random s =
      .go [challengePacket (generateChallenge random)]
        (s.move c (.proof authHello pubKey (generateChallenge random))
          [challengePacket (generateChallenge random)]) := by
  have hstep : step C allowedNodes s (.issueChallenge c random true) =
      some (s.move c (.proof authHello pubKey (generateChallenge random))
        [challengePacket (generateChallenge random)]) := by
    simp only [step, hph, Option.bind_some, onChallenge, hrandom, if_true]
  simp only [handleConnection, hph, advance_eq hstep (sent_move_self ..)]

theorem handleConnection_proof {p : Packet} {authHello : AuthHello} {pubKey : Bytes}
    {challenge sig : String} (hph : s.phase c = some (.proof authHello pubKey challenge))
    (hcheck : checkAuthProof C pubKey challenge p = some (.ok sig)) :
    ∃ next, handleConnection C allowedNodes c random s = .receive next ∧
      next (.packet p) =
        ([okPacket], s.move c (.verified ⟨authHello, pubKey, challenge, sig⟩) [okPacket]) := by
  have hstep : step C allowedNodes s (.readPacket c (some p)) =
      some (s.move c (.verified ⟨authHello, pubKey, challenge, sig⟩) [okPacket]) := by
    simp only [step, hph, Option.bind_some, onPacket, hcheck]
  refine ⟨_, by simp only [handleConnection, hph]; rfl, ?_⟩
  exact advance_eq hstep (sent_move_self ..)

theorem handleConnection_verified {cr : Credentials} (hph : s.phase c = some (.verified cr))
    (hid : cr.hello.id ≠ "") :
    handleConnection C allowedNodes c random s =
      .go [] { s.move c (.serving cr) [] with nodes := s.nodes.register cr.hello.id c } := by
  have hstep : step C allowedNodes s (.registerNode c) =
      some { s.move c (.serving cr) [] with nodes := s.nodes.register cr.hello.id c } := by
    simp only [step, hph, Option.bind_some, onRegister, registerNode, hid, if_false]
  have hsent : ({ s.move c (.serving cr) [] with
      nodes := s.nodes.register cr.hello.id c } : State).sent c = s.sent c ++ [] :=
    sent_move_self s c (.serving cr) []
  have hadvance := advance_eq hstep hsent
  simp only [handleConnection, hph]
  rw [hadvance]

theorem handleConnection_serving {cr : Credentials} (hph : s.phase c = some (.serving cr)) :
    handleConnection C allowedNodes c random s = .stop := by
  simp only [handleConnection, hph]

end Steps

end Master

/-- `Connect` against `handleConnection`, on a connection the server has not
seen. -/
def slaveSession (s : Master.State) :
    Dialogue.State Slave.ConnectPhase Master.State Frame Packet :=
  ⟨.writeHello, s, [], []⟩

/-- The last state of the session. -/
def slaveSessionEnd (C : Crypto) (keys : KeyPair C) (random : Bytes) (c : Master.ConnID)
    (s : Master.State) : Dialogue.State Slave.ConnectPhase Master.State Frame Packet :=
  let hello := Slave.authHello C keys.pubKey
  let challenge := generateChallenge random
  let cr := Master.connectCredentials C keys.pubKey keys.privKey random
  let verified := ((((s.move c .hello []).move c .auth []).move c
    (.challenge hello keys.pubKey) []).move c (.proof hello keys.pubKey challenge)
    [Master.challengePacket challenge]).move c (.verified cr) [Master.okPacket]
  ⟨.connected, { verified.move c (.serving cr) [] with
    nodes := s.nodes.register (keyID C keys.pubKey) c }, [], []⟩

/-- One schedule of the session. -/
theorem run_slaveSession {C : Crypto} (keys : KeyPair C) {random : Bytes}
    (hrandom : random.length = 64) {allowedNodes : Finset String}
    (hallowed : Master.admitsNode allowedNodes (keyID C keys.pubKey) = true) {s : Master.State}
    {c : Master.ConnID} (hc : s.phase c = none) :
    Machine.run (step (Slave.connect C keys) (Master.handleConnection C allowedNodes c random))
        (slaveSession s)
        [.left, .left, .right, .right, .right, .right, .left, .left, .right, .right, .left] =
      some (slaveSessionEnd C keys random c s) := by
  have hcheck : Master.checkAuthHello C allowedNodes (helloPacket (Slave.authHello C keys.pubKey)) =
      .ok (Slave.authHello C keys.pubKey, keys.pubKey) :=
    Master.checkAuthHello_helloPacket rfl (Base64.decodeString_encodeToString _)
      (trimSpace_keyID C _) hallowed
  have hproof := Master.checkAuthProof_signaturePacket keys.pubKey_length
    (keys.verifies (generateChallenge random))
  have hauth : Slave.connect C keys .writeAuth =
      .go [.packet (helloPacket (Slave.authHello C keys.pubKey))] .readChallenge := by
    simp only [Slave.connect, Slave.authPacket_ok keys.pubKey_length]
    rfl
  have hchallenge : ∃ next, Slave.connect C keys .readChallenge = .receive next ∧
      next (Master.challengePacket (generateChallenge random)) =
        ([], .writeProof (signaturePacket (C.sign keys.privKey (generateChallenge random)))) := by
    refine ⟨_, rfl, ?_⟩
    rw [Slave.proofPacket_ok keys.privKey_length hrandom rfl rfl]
  obtain ⟨next₁, hreceive₁, hnext₁⟩ := hchallenge
  obtain ⟨next₂, hreceive₂, hnext₂⟩ := Master.handleConnection_hello C allowedNodes random
    (Master.phase_move_self s c .hello [])
  obtain ⟨next₃, hreceive₃, hnext₃⟩ := Master.handleConnection_auth C allowedNodes random
    (Master.phase_move_self (s.move c .hello []) c .auth []) hcheck
  obtain ⟨next₄, hreceive₄, hnext₄⟩ := Master.handleConnection_proof C allowedNodes random
    (Master.phase_move_self (((s.move c .hello []).move c .auth []).move c
      (.challenge (Slave.authHello C keys.pubKey) keys.pubKey) []) c
      (.proof (Slave.authHello C keys.pubKey) keys.pubKey (generateChallenge random))
      [Master.challengePacket (generateChallenge random)]) hproof
  -- the hello line and the hello packet
  refine Machine.run_cons_eq_some.mpr ⟨_, step_left_go rfl, ?_⟩
  refine Machine.run_cons_eq_some.mpr ⟨_, step_left_go hauth, ?_⟩
  -- the handler reads them and issues its challenge
  refine Machine.run_cons_eq_some.mpr ⟨_, step_right_go
    (Master.handleConnection_accept C allowedNodes random hc), ?_⟩
  refine Machine.run_cons_eq_some.mpr ⟨_, step_right_receive hreceive₂ rfl hnext₂, ?_⟩
  refine Machine.run_cons_eq_some.mpr ⟨_, step_right_receive hreceive₃ rfl hnext₃, ?_⟩
  refine Machine.run_cons_eq_some.mpr ⟨_, step_right_go
    (Master.handleConnection_challenge C allowedNodes random (Master.phase_move_self ..)
      hrandom), ?_⟩
  -- the proof and its acceptance
  refine Machine.run_cons_eq_some.mpr ⟨_, step_left_receive hreceive₁ rfl hnext₁, ?_⟩
  refine Machine.run_cons_eq_some.mpr ⟨_, step_left_go rfl, ?_⟩
  refine Machine.run_cons_eq_some.mpr ⟨_, step_right_receive hreceive₄ rfl hnext₄, ?_⟩
  refine Machine.run_cons_eq_some.mpr ⟨_, step_right_go
    (Master.handleConnection_verified C allowedNodes random (Master.phase_move_self ..)
      (keyID_ne_empty C _)), ?_⟩
  refine Machine.run_cons_eq_some.mpr ⟨_, step_left_receive rfl rfl rfl, ?_⟩
  rfl

/-! ## The master and the orchestrator -/

namespace Master

/-- Where `connectLoop` is in the handshake. -/
inductive AuthPhase where
  | writeHello
  | readChallenge
  | writeAuth (authPacket proofPacket : Packet)
  | writeProof (proofPacket : Packet)
  | readResponse
  /-- `auth.ok` was read -/
  | authenticated
  | failed (err : String)

/-- The two packets that `connectLoop` makes of the challenge packet. -/
def authPackets (C : Crypto) (keys : KeyPair C) (mi : MasterInfo) (challengePacket : Packet) :
    Except String (Packet × Packet) := do
  let _ ← readChallenge challengePacket
  let auth ← authPacket mi keys.pubKey
  let proof ← proofPacket C keys.privKey challengePacket
  return (auth, proof)

/-- How `connectLoop` reads the answer to its proof. -/
def readAuthResponse (authResp : Packet) : AuthPhase :=
  if authResp.type = packetError then
    if trimSpace authResp.error ≠ "" then
      .failed ("orchestrator auth failed: " ++ trimSpace authResp.error)
    else .failed "orchestrator auth failed"
  else if authResp.type ≠ packetAuthOK then .failed "unexpected auth response"
  else .authenticated

/-- `connectLoop` with the record it sends, up to the start of its reader. -/
def connectLoop (C : Crypto) (keys : KeyPair C) (mi : MasterInfo) :
    AuthPhase → Move AuthPhase Packet Frame
  | .writeHello => match Centralisd.writeHello headerOrchestrator with
    | .error err => .go [] (.failed err)
    | .ok f => .go [f] .readChallenge
  | .readChallenge => .receive fun challengePacket =>
    match authPackets C keys mi challengePacket with
    | .error err => ([], .failed err)
    | .ok (auth, proof) => ([], .writeAuth auth proof)
  | .writeAuth auth proof => .go [.packet auth] (.writeProof proof)
  | .writeProof proof => .go [.packet proof] .readResponse
  | .readResponse => .receive fun authResp => ([], readAuthResponse authResp)
  | .authenticated => .stop
  | .failed _ => .stop

theorem authPackets_ok {C : Crypto} (keys : KeyPair C) (mi : MasterInfo) (challenge : String)
    {p : Packet} (htype : p.type = packetAuthChallenge)
    (hp : p.payload = some (AuthChallenge.marshal ⟨challenge⟩)) :
    authPackets C keys mi p = .ok (helloPacket (authHello mi keys.pubKey),
      signaturePacket (C.sign keys.privKey challenge)) := by
  have hread : readChallenge p = .ok challenge := by
    rw [readChallenge, htype, if_neg (by decide),
      decodePayload_some hp (AuthChallenge.unmarshal_marshal _)]
    rfl
  rw [authPackets, hread, authPacket_ok, proofPacket_ok htype hp]
  rfl

end Master

namespace Orchestrator

/-- A step of the server, with the packets it writes to the client of `c`. -/
def advance (C : Crypto) (masterWhitelist : Whitelist) (c : ConnID) (s : State) (a : Action) :
    List Packet × State :=
  match step C masterWhitelist s a with
  | none => ([], s)
  | some t => ((t.sent c).drop (s.sent c).length, t)

/-- `handleConn` for the connection `c`, up to its message loop. -/
def handleConn (C : Crypto) (masterWhitelist : Whitelist) (c : ConnID) (random : Bytes)
    (s : State) : Move State Frame Packet :=
  let go := fun a => Move.go (advance C masterWhitelist c s a).1
    (advance C masterWhitelist c s a).2
  match s.phase c with
  | none => go (.accept c)
  | some .hello => .receive fun f => advance C masterWhitelist c s (.readHello c f.asLine)
  | some .challenge => go (.issueChallenge c random)
  | some (.auth _) => .receive fun f => advance C masterWhitelist c s (.readPacket c f.asPacket)
  | some (.proof _ _) =>
    .receive fun f => advance C masterWhitelist c s (.readPacket c f.asPacket)
  | some (.verified _) => go (.registerMasterConn c)
  | some _ => .stop

theorem advance_eq {C : Crypto} {masterWhitelist : Whitelist} {c : ConnID} {s t : State}
    {a : Action} {out : List Packet} (h : step C masterWhitelist s a = some t)
    (hsent : t.sent c = s.sent c ++ out) : advance C masterWhitelist c s a = (out, t) := by
  rw [advance, h]
  dsimp only
  rw [hsent, List.drop_left]

section Steps

variable (C : Crypto) (masterWhitelist : Whitelist) (random : Bytes) {c : ConnID} {s : State}

theorem handleConn_accept (hph : s.phase c = none) :
    handleConn C masterWhitelist c random s = .go [] (s.move c .hello []) := by
  have hstep : step C masterWhitelist s (.accept c) = some (s.move c .hello []) := by
    simp only [step, hph]
  simp only [handleConn, hph, advance_eq hstep (sent_move_self s c .hello [])]

theorem handleConn_hello (hph : s.phase c = some .hello) :
    ∃ next, handleConn C masterWhitelist c random s = .receive next ∧
      next (.line headerOrchestrator) = ([], s.move c .challenge []) := by
  have hhello : readHello headerOrchestrator (some headerOrchestrator) = .ok () := by decide
  have hstep : step C masterWhitelist s (.readHello c (some headerOrchestrator)) =
      some (s.move c .challenge []) := by
    simp only [step, hph, Option.bind_some, onHello, hhello]
  refine ⟨_, by simp only [handleConn, hph]; rfl, ?_⟩
  exact advance_eq hstep (sent_move_self ..)

theorem handleConn_challenge (hph : s.phase c = some .challenge) (hrandom : random.length = 64) :
    handleConn C masterWhitelist c random s =
      .go [challengePacket (generateChallenge random)]
        (s.move c (.auth (generateChallenge random))
          [challengePacket (generateChallenge random)]) := by
  have hstep : step C masterWhitelist s (.issueChallenge c random) =
      some (s.move c (.auth (generateChallenge random))
        [challengePacket (generateChallenge random)]) := by
    simp only [step, hph, Option.bind_some, onChallenge, hrandom, if_true]
  simp only [handleConn, hph, advance_eq hstep (sent_move_self ..)]

theorem handleConn_auth {p : Packet} {authHello : AuthHello} {challenge : String}
    (hph : s.phase c = some (.auth challenge)) (hcheck : checkAuthHello p = .ok authHello) :
    ∃ next, handleConn C masterWhitelist c random s = .receive next ∧
      next (.packet p) = ([], s.move c (.proof challenge authHello) []) := by
  have hstep : step C masterWhitelist s (.readPacket c (some p)) =
      some (s.move c (.proof challenge authHello) []) := by
    simp only [step, hph, Option.bind_some, onPacket, hcheck]
  refine ⟨_, by simp only [handleConn, hph]; rfl, ?_⟩
  exact advance_eq hstep (sent_move_self ..)

theorem handleConn_proof {p : Packet} {authHello : AuthHello} {challenge : String}
    {cr : Credentials} (hph : s.phase c = some (.proof challenge authHello))
    (hcheck : checkAuthProof C masterWhitelist challenge authHello p = some (.ok cr)) :
    ∃ next, handleConn C masterWhitelist c random s = .receive next ∧
      next (.packet p) = ([okPacket], { s.move c (.verified cr) [okPacket] with
        authed := Function.update s.authed c (some cr) }) := by
  have hstep : step C masterWhitelist s (.readPacket c (some p)) =
      some { s.move c (.verified cr) [okPacket] with
        authed := Function.update s.authed c (some cr) } := by
    simp only [step, hph, Option.bind_some, onPacket, hcheck]
  refine ⟨_, by simp only [handleConn, hph]; rfl, ?_⟩
  exact advance_eq hstep (sent_move_self s c (.verified cr) [okPacket])

theorem handleConn_verified {cr : Credentials} (hph : s.phase c = some (.verified cr))
    (hid : cr.hello.id ≠ "") :
    handleConn C masterWhitelist c random s =
      .go [] { s.move c (.loop cr .reading) [] with
        conns := s.conns.register cr.hello.id c } := by
  have hstep : step C masterWhitelist s (.registerMasterConn c) =
      some { s.move c (.loop cr .reading) [] with
        conns := s.conns.register cr.hello.id c } := by
    simp only [step, hph, Option.bind_some, onRegister, registerMasterConn, hid, if_false]
  have hsent : ({ s.move c (.loop cr .reading) [] with
      conns := s.conns.register cr.hello.id c } : State).sent c = s.sent c ++ [] :=
    sent_move_self s c (.loop cr .reading) []
  have hadvance := advance_eq hstep hsent
  simp only [handleConn, hph]
  rw [hadvance]

theorem handleConn_loop {cr : Credentials} {point : LoopPhase}
    (hph : s.phase c = some (.loop cr point)) :
    handleConn C masterWhitelist c random s = .stop := by
  simp only [handleConn, hph]

end Steps

end Orchestrator

/-- `connectLoop` against `handleConn`, on a connection the server has not
seen. -/
def masterSession (s : Orchestrator.State) :
    Dialogue.State Master.AuthPhase Orchestrator.State Frame Packet :=
  ⟨.writeHello, s, [], []⟩

/-- The last state of the session. -/
def masterSessionEnd (C : Crypto) (keys : KeyPair C) (mi : MasterInfo) (random : Bytes)
    (c : Orchestrator.ConnID) (s : Orchestrator.State) :
    Dialogue.State Master.AuthPhase Orchestrator.State Frame Packet :=
  let challenge := generateChallenge random
  let cr := Orchestrator.connectCredentials C mi keys.pubKey keys.privKey random
  let proof := (((s.move c .hello []).move c .challenge []).move c (.auth challenge)
    [Orchestrator.challengePacket challenge]).move c
    (.proof challenge (Master.authHello mi keys.pubKey)) []
  let verified : Orchestrator.State := { proof.move c (.verified cr) [Orchestrator.okPacket] with
    authed := Function.update proof.authed c (some cr) }
  ⟨.authenticated, { verified.move c (.loop cr .reading) [] with
    conns := s.conns.register mi.id c }, [], []⟩

/-- One schedule of the session. -/
theorem run_masterSession {C : Crypto} (keys : KeyPair C) {random : Bytes}
    (hrandom : random.length = 64) {masterWhitelist : Orchestrator.Whitelist} {mi : MasterInfo}
    (hid : mi.id = keyID C keys.pubKey)
    (hadmits : Orchestrator.admitsMaster masterWhitelist mi.cluster mi.id = .ok ())
    {s : Orchestrator.State} {c : Orchestrator.ConnID} (hc : s.phase c = none) :
    Machine.run
        (step (Master.connectLoop C keys mi) (Orchestrator.handleConn C masterWhitelist c random))
        (masterSession s)
        [.left, .right, .right, .right, .left, .left, .left, .right, .right, .right, .left] =
      some (masterSessionEnd C keys mi random c s) := by
  have hcheck : Orchestrator.checkAuthHello (helloPacket (Master.authHello mi keys.pubKey)) =
      .ok (Master.authHello mi keys.pubKey) := Orchestrator.checkAuthHello_helloPacket rfl
  have hid' : trimSpace (Master.authHello mi keys.pubKey).id = keyID C keys.pubKey := by
    show trimSpace mi.id = _
    rw [hid, trimSpace_keyID]
  have hproof : Orchestrator.checkAuthProof C masterWhitelist (generateChallenge random)
      (Master.authHello mi keys.pubKey)
      (signaturePacket (C.sign keys.privKey (generateChallenge random))) =
      some (.ok (Orchestrator.connectCredentials C mi keys.pubKey keys.privKey random)) :=
    Orchestrator.checkAuthProof_signaturePacket (Base64.decodeString_encodeToString _) hid'
      hadmits keys.pubKey_length (keys.verifies _)
  have hne : mi.id ≠ "" := hid ▸ keyID_ne_empty C keys.pubKey
  have hchallenge : ∃ next, Master.connectLoop C keys mi .readChallenge = .receive next ∧
      next (Orchestrator.challengePacket (generateChallenge random)) =
        ([], .writeAuth (helloPacket (Master.authHello mi keys.pubKey))
          (signaturePacket (C.sign keys.privKey (generateChallenge random)))) := by
    refine ⟨_, rfl, ?_⟩
    rw [Master.authPackets_ok keys mi (generateChallenge random) rfl rfl]
  obtain ⟨next₁, hreceive₁, hnext₁⟩ := hchallenge
  obtain ⟨next₂, hreceive₂, hnext₂⟩ := Orchestrator.handleConn_hello C masterWhitelist random
    (Orchestrator.phase_move_self s c .hello [])
  obtain ⟨next₃, hreceive₃, hnext₃⟩ := Orchestrator.handleConn_auth C masterWhitelist random
    (Orchestrator.phase_move_self ((s.move c .hello []).move c .challenge []) c
      (.auth (generateChallenge random)) [Orchestrator.challengePacket (generateChallenge random)])
    hcheck
  obtain ⟨next₄, hreceive₄, hnext₄⟩ := Orchestrator.handleConn_proof C masterWhitelist random
    (Orchestrator.phase_move_self (((s.move c .hello []).move c .challenge []).move c
      (.auth (generateChallenge random)) [Orchestrator.challengePacket (generateChallenge random)])
      c (.proof (generateChallenge random) (Master.authHello mi keys.pubKey)) []) hproof
  -- the hello line and the challenge
  refine Machine.run_cons_eq_some.mpr ⟨_, step_left_go rfl, ?_⟩
  refine Machine.run_cons_eq_some.mpr ⟨_, step_right_go
    (Orchestrator.handleConn_accept C masterWhitelist random hc), ?_⟩
  refine Machine.run_cons_eq_some.mpr ⟨_, step_right_receive hreceive₂ rfl hnext₂, ?_⟩
  refine Machine.run_cons_eq_some.mpr ⟨_, step_right_go
    (Orchestrator.handleConn_challenge C masterWhitelist random (Orchestrator.phase_move_self ..)
      hrandom), ?_⟩
  -- the hello packet and the proof
  refine Machine.run_cons_eq_some.mpr ⟨_, step_left_receive hreceive₁ rfl hnext₁, ?_⟩
  refine Machine.run_cons_eq_some.mpr ⟨_, step_left_go rfl, ?_⟩
  refine Machine.run_cons_eq_some.mpr ⟨_, step_left_go rfl, ?_⟩
  refine Machine.run_cons_eq_some.mpr ⟨_, step_right_receive hreceive₃ rfl hnext₃, ?_⟩
  refine Machine.run_cons_eq_some.mpr ⟨_, step_right_receive hreceive₄ rfl hnext₄, ?_⟩
  -- accepted, and registered
  refine Machine.run_cons_eq_some.mpr ⟨_, step_right_go
    (Orchestrator.handleConn_verified C masterWhitelist random
      (Orchestrator.phase_move_self _ c _ [Orchestrator.okPacket]) hne), ?_⟩
  refine Machine.run_cons_eq_some.mpr ⟨_, step_left_receive rfl rfl rfl, ?_⟩
  rfl

/-! ## Completeness -/

/-- A slave that has read `auth.ok`, and is registered under its key's ID. -/
structure SlaveConnected (C : Crypto) (pubKey : Bytes) (c : Master.ConnID)
    (t : Dialogue.State Slave.ConnectPhase Master.State Frame Packet) : Prop where
  authOK : t.left = .connected
  serving : ∃ cr, t.right.phase c = some (.serving cr) ∧ cr.hello.id = keyID C pubKey
  registered : t.right.nodes.owner (keyID C pubKey) = some c

/-- A master that has read `auth.ok` and is registered under its key's ID,
on a connection on which whatever it reports of itself passes the checks. -/
structure MasterConnected (C : Crypto) (cfg : Master.Config) (pubKey : Bytes)
    (c : Orchestrator.ConnID)
    (t : Dialogue.State Master.AuthPhase Orchestrator.State Frame Packet) : Prop where
  authOK : t.left = .authenticated
  registered : t.right.conns.owner (keyID C pubKey) = some c
  reports : ∃ cr, t.right.phase c = some (.loop cr .reading) ∧
    ∀ hostname nodeIDs, ∃ register heartbeat,
      Master.registerPacket (Master.buildMasterInfo C hostname cfg pubKey nodeIDs) =
        .ok register ∧
      Master.heartbeatPacket (Master.buildMasterInfo C hostname cfg pubKey nodeIDs) =
        .ok heartbeat ∧
      ∀ p, p = register ∨ p = heartbeat →
        Orchestrator.checkMessage cr.hello.id cr.hello.cluster p =
          .ok (Master.buildMasterInfo C hostname cfg pubKey nodeIDs)

theorem slaveSession_completes {C : Crypto} (keys : KeyPair C) {random : Bytes}
    (hrandom : random.length = 64) {allowedNodes : Finset String}
    (hallowed : allowedNodes = ∅ ∨ keyID C keys.pubKey ∈ allowedNodes) {s : Master.State}
    {c : Master.ConnID} (hc : s.phase c = none) :
    Machine.Completes
      (step (Slave.connect C keys) (Master.handleConnection C allowedNodes c random))
      (slaveSession s) (SlaveConnected C keys.pubKey c) := by
  have hadmits : Master.admitsNode allowedNodes (keyID C keys.pubKey) = true := by
    rw [Master.admitsNode_iff]
    rcases hallowed with rfl | hmem
    · exact fun hpos => absurd hpos (by simp)
    · exact fun _ => hmem
  have hphase : (slaveSessionEnd C keys random c s).right.phase c =
      some (.serving (Master.connectCredentials C keys.pubKey keys.privKey random)) :=
    Function.update_self ..
  refine Machine.completes_of_run (step_diamond _ _) (run_slaveSession keys hrandom hadmits hc)
    (step_none rfl (Master.handleConnection_serving C allowedNodes random hphase)) ?_
  exact ⟨rfl, ⟨_, hphase, rfl⟩, KeyedTable.owner_register s.nodes (keyID C keys.pubKey) c⟩

theorem masterSession_completes {C : Crypto} (keys : KeyPair C) {random : Bytes}
    (hrandom : random.length = 64) {masterWhitelist : Orchestrator.Whitelist}
    {hostname : String} {cfg : Master.Config} {nodeIDs : List String}
    (hwhitelist : masterWhitelist = ∅ ∨ ∃ set, masterWhitelist.lookup
        (Master.buildMasterInfo C hostname cfg keys.pubKey nodeIDs).cluster = some set ∧
      keyID C keys.pubKey ∈ set) {s : Orchestrator.State} {c : Orchestrator.ConnID}
    (hc : s.phase c = none) :
    Machine.Completes
      (step (Master.connectLoop C keys (Master.buildMasterInfo C hostname cfg keys.pubKey nodeIDs))
        (Orchestrator.handleConn C masterWhitelist c random))
      (masterSession s) (MasterConnected C cfg keys.pubKey c) := by
  have hid : ∀ hostname nodeIDs,
      (Master.buildMasterInfo C hostname cfg keys.pubKey nodeIDs).id = keyID C keys.pubKey :=
    fun _ _ => Master.buildMasterInfo_id keys.pubKey_length
  have hadmits : Orchestrator.admitsMaster masterWhitelist
      (Master.buildMasterInfo C hostname cfg keys.pubKey nodeIDs).cluster
      (Master.buildMasterInfo C hostname cfg keys.pubKey nodeIDs).id = .ok () := by
    rw [Orchestrator.admitsMaster, hid]
    rcases hwhitelist with rfl | ⟨set, hset, hmem⟩
    · exact if_neg (by decide)
    · split
      · rw [hset]
        exact if_pos hmem
      · rfl
  have hphase : (masterSessionEnd C keys (Master.buildMasterInfo C hostname cfg keys.pubKey nodeIDs)
      random c s).right.phase c = some (.loop (Orchestrator.connectCredentials C
        (Master.buildMasterInfo C hostname cfg keys.pubKey nodeIDs) keys.pubKey keys.privKey random)
        .reading) :=
    Function.update_self ..
  refine Machine.completes_of_run (step_diamond _ _)
    (run_masterSession keys hrandom (hid _ _) hadmits hc)
    (step_none rfl (Orchestrator.handleConn_loop C masterWhitelist random hphase)) ?_
  refine ⟨rfl, ?_, _, hphase, ?_⟩
  · rw [← hid hostname nodeIDs]
    exact KeyedTable.owner_register ..
  · -- the record of a report has the ID and the cluster of the hello
    intro hostname' nodeIDs'
    refine ⟨_, _, Master.registerPacket_ok _, Master.heartbeatPacket_ok _, ?_⟩
    have hne : (Master.buildMasterInfo C hostname' cfg keys.pubKey nodeIDs').id ≠ "" :=
      hid hostname' nodeIDs' ▸ keyID_ne_empty C keys.pubKey
    have hcluster : (Master.buildMasterInfo C hostname cfg keys.pubKey nodeIDs).cluster =
        (Master.buildMasterInfo C hostname' cfg keys.pubKey nodeIDs').cluster := rfl
    intro p hp
    dsimp only [Orchestrator.connectCredentials, Master.authHello]
    rw [hid hostname nodeIDs, ← hid hostname' nodeIDs', hcluster]
    rcases hp with rfl | rfl
    · exact Orchestrator.checkMessage_report (.inl rfl) hne
    · exact Orchestrator.checkMessage_report (.inr rfl) hne

/-- **Handshake completeness.** For every key pair whose signatures verify and
every challenge: however the two sides interleave,

1. `Connect` against `handleConnection`, with an allow-list that is empty or
   contains the key's ID, ends with `auth.ok` at the slave and the node
   registered under that ID;
2. `connectLoop` against `handleConn`, with any configuration and a whitelist
   that is empty or contains the ID under the cluster of the configuration,
   ends with `auth.ok` at the master, registered under its ID, and every
   register and heartbeat packet it builds from then on passes the checks of
   its identity. -/
theorem handshake_completes (C : Crypto) (keys : KeyPair C) (random : Bytes)
    (hrandom : random.length = 64) :
    (∀ (allowedNodes : Finset String) (s : Master.State) (c : Master.ConnID), s.phase c = none →
      allowedNodes = ∅ ∨ keyID C keys.pubKey ∈ allowedNodes →
      Machine.Completes
        (step (Slave.connect C keys) (Master.handleConnection C allowedNodes c random))
        (slaveSession s) (SlaveConnected C keys.pubKey c)) ∧
    (∀ (hostname : String) (cfg : Master.Config) (nodeIDs : List String)
      (masterWhitelist : Orchestrator.Whitelist) (s : Orchestrator.State)
      (c : Orchestrator.ConnID), s.phase c = none →
      (masterWhitelist = ∅ ∨ ∃ set, masterWhitelist.lookup
          (Master.buildMasterInfo C hostname cfg keys.pubKey nodeIDs).cluster = some set ∧
        keyID C keys.pubKey ∈ set) →
      Machine.Completes
        (step
          (Master.connectLoop C keys (Master.buildMasterInfo C hostname cfg keys.pubKey nodeIDs))
          (Orchestrator.handleConn C masterWhitelist c random))
        (masterSession s) (MasterConnected C cfg keys.pubKey c)) := by
  constructor
  · intro allowedNodes s c hc hallowed
    exact slaveSession_completes keys hrandom hallowed hc
  · intro hostname cfg nodeIDs masterWhitelist s c hc hwhitelist
    exact masterSession_completes keys hrandom hwhitelist hc

/-- The demo key with the transparent signatures. -/
def demoKeys : KeyPair Crypto.transparent where
  pubKey := demoKey
  privKey := demoKey
  pubKey_length := List.length_replicate ..
  privKey_length := by decide
  verifies := Crypto.transparent_verify demoKey

/-- A whitelist with the demo key's ID under one cluster. -/
def demoMasters : Orchestrator.Whitelist :=
  AList.singleton "a" {keyID Crypto.transparent demoKey}

/-- On new servers, with an allow-list of the one node and a whitelist of the
one master, whose configuration names the cluster with spaces around it. -/
theorem handshake_completes_demo :
    Machine.Completes
      (step (Slave.connect Crypto.transparent demoKeys)
        (Master.handleConnection Crypto.transparent {keyID Crypto.transparent demoKey} 0
          (List.replicate 64 0)))
      (slaveSession Master.init) (SlaveConnected Crypto.transparent demoKey 0) ∧
    Machine.Completes
      (step
        (Master.connectLoop Crypto.transparent demoKeys
          (Master.buildMasterInfo Crypto.transparent "host" { cluster := " a " } demoKey []))
        (Orchestrator.handleConn Crypto.transparent demoMasters 0 (List.replicate 64 0)))
      (masterSession Orchestrator.init)
      (MasterConnected Crypto.transparent { cluster := " a " } demoKey 0) := by
  have h := handshake_completes Crypto.transparent demoKeys (List.replicate 64 0)
    (List.length_replicate ..)
  have hcluster : (Master.buildMasterInfo Crypto.transparent "host" { cluster := " a " } demoKey
      []).cluster = "a" := by decide
  have hlisted : demoMasters.lookup (Master.buildMasterInfo Crypto.transparent "host"
      { cluster := " a " } demoKey []).cluster = some {keyID Crypto.transparent demoKey} := by
    rw [hcluster]
    rfl
  exact ⟨h.1 _ _ _ rfl (.inr (Finset.mem_singleton_self _)),
    h.2 _ _ _ _ _ _ rfl (.inr ⟨_, hlisted, Finset.mem_singleton_self _⟩)⟩

end Centralisd
