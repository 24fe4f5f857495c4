import Centralisd.Core.Handshake

/-!
# Centralisd — the master's half of the orchestrator handshake

The packets `connectLoop` of `src/master/orchestrator_client.go` sends: the
hello and proof of the handshake, and the register and heartbeat packets
built by `buildMasterInfo`. Key files and the host name are inputs.
-/

namespace Centralisd.Master

/-- The part of `cfg.Master` that goes into a `MasterInfo`. -/
structure Config where
  name : String := ""
  cluster : String := ""
  advertise : String := ""

/-- `buildMasterInfo`, with the host name, the loaded public key (empty when
loading failed) and the connected node IDs. -/
def buildMasterInfo (C : Crypto) (hostname : String) (cfg : Config) (pubKey : Bytes)
    (nodeIDs : List String) : MasterInfo where
  id := if 0 < pubKey.length then keyID C pubKey else ""
  name := if trimSpace cfg.name = "" then hostname else trimSpace cfg.name
  cluster := if trimSpace cfg.cluster = "" then "default" else trimSpace cfg.cluster
  advertise := trimSpace cfg.advertise
  pubKey := ""
  nodes := (nodeIDs.filter fun id => trimSpace id != "").map fun id => { id := id }

/-- The hello of `connectLoop`. -/
def authHello (mi : MasterInfo) (pubKey : Bytes) : AuthHello where
  id := mi.id
  pubKey := Base64.encodeToString pubKey
  role := "master"
  name := mi.name
  cluster := mi.cluster
  advertise := mi.advertise

def authPacket (mi : MasterInfo) (pubKey : Bytes) : Except String Packet :=
  newPacket packetAuthHello (some (authHello mi pubKey).marshal)

/-- The string `connectLoop` finds in the challenge packet it has read. -/
def readChallenge (challengePacket : Packet) : Except String String :=
  if challengePacket.type ≠ packetAuthChallenge then .error "unexpected challenge packet type"
  else (decodePayload AuthChallenge.unmarshal challengePacket).map AuthChallenge.challenge

/-- The `auth.proof` packet: the challenge is signed as it was read. -/
def proofPacket (C : Crypto) (privKey : Bytes) (challengePacket : Packet) :
    Except String Packet := do
  let challenge ← readChallenge challengePacket
  newPacket packetAuthProof
    (some (AuthProof.marshal ⟨Base64.encodeToString (C.sign privKey challenge)⟩))

def registerPacket (mi : MasterInfo) : Except String Packet :=
  newPacket packetMasterRegister (some mi.marshal)

def heartbeatPacket (mi : MasterInfo) : Except String Packet :=
  newPacket packetMasterHeartbeat (some mi.marshal)

theorem authPacket_ok (mi : MasterInfo) (pubKey : Bytes) :
    authPacket mi pubKey = .ok (helloPacket (authHello mi pubKey)) := by
  have htype : trimSpace packetAuthHello ≠ "" := by decide
  exact newPacket_ok htype _

theorem registerPacket_ok (mi : MasterInfo) :
    registerPacket mi = .ok { type := packetMasterRegister, payload := some mi.marshal } := by
  have htype : trimSpace packetMasterRegister ≠ "" := by decide
  exact newPacket_ok htype _

theorem heartbeatPacket_ok (mi : MasterInfo) :
    heartbeatPacket mi = .ok { type := packetMasterHeartbeat, payload := some mi.marshal } := by
  have htype : trimSpace packetMasterHeartbeat ≠ "" := by decide
  exact newPacket_ok htype _

/-- The proof for a challenge packet as the orchestrator writes it. -/
theorem proofPacket_ok {C : Crypto} {privKey : Bytes} {challenge : String} {p : Packet}
    (htype : p.type = packetAuthChallenge)
    (hp : p.payload = some (AuthChallenge.marshal ⟨challenge⟩)) :
    proofPacket C privKey p = .ok (signaturePacket (C.sign privKey challenge)) := by
  have hread : readChallenge p = .ok challenge := by
    rw [readChallenge, htype, if_neg (by decide),
      decodePayload_some hp (AuthChallenge.unmarshal_marshal _)]
    rfl
  have hproof : trimSpace packetAuthProof ≠ "" := by decide
  rw [proofPacket, hread]
  exact newPacket_ok hproof _

theorem buildMasterInfo_id {C : Crypto} {hostname : String} {cfg : Config} {pubKey : Bytes}
    {nodeIDs : List String} (h : pubKey.length = publicKeySize) :
    (buildMasterInfo C hostname cfg pubKey nodeIDs).id = keyID C pubKey := by
  have hpos : 0 < pubKey.length := h ▸ by decide
  exact if_pos hpos

end Centralisd.Master
