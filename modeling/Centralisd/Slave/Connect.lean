import Centralisd.Core.Handshake

/-!
# Centralisd — the slave's half of the handshake

The client side of `slave.Connect` up to the proof: the hello packet it
sends and how it answers the challenge packet it reads. Every early exit of
the source is an `error` with the text it logs.
-/

namespace Centralisd.Slave

/-- The `auth.hello` packet of `Connect`. -/
def authPacket (C : Crypto) (pubKey : Bytes) : Except String Packet := do
  let clientID ← idFromPublicKey C pubKey
  newPacket packetAuthHello (some (AuthHello.marshal
    { id := clientID, pubKey := Base64.encodeToString pubKey, role := "slave" }))

/-- The string `Connect` finds in the challenge packet it has read. -/
def readChallenge (challengePacket : Packet) : Except String String :=
  if challengePacket.type = packetError then .error "server rejected handshake"
  else if challengePacket.type ≠ packetAuthChallenge then .error "unexpected challenge type"
  else (decodePayload AuthChallenge.unmarshal challengePacket).map AuthChallenge.challenge

/-- The `auth.proof` packet with which `Connect` answers the challenge. -/
def proofPacket (C : Crypto) (privKey : Bytes) (challengePacket : Packet) :
    Except String Packet := do
  let challenge ← readChallenge challengePacket
  let sigStr ← signChallenge C privKey challenge
  newPacket packetAuthProof (some (AuthProof.marshal ⟨sigStr⟩))

/-- The hello of `Connect`. -/
def authHello (C : Crypto) (pubKey : Bytes) : AuthHello where
  id := keyID C pubKey
  pubKey := Base64.encodeToString pubKey
  role := "slave"

theorem authPacket_ok {C : Crypto} {pubKey : Bytes} (h : pubKey.length = publicKeySize) :
    authPacket C pubKey = .ok (helloPacket (authHello C pubKey)) := by
  have htype : trimSpace packetAuthHello ≠ "" := by decide
  rw [authPacket, idFromPublicKey, if_neg (not_not.mpr h)]
  exact newPacket_ok htype _

/-- The proof for a challenge packet as the servers write it. -/
theorem proofPacket_ok {C : Crypto} {privKey random : Bytes} (hkey : privKey.length ≠ 0)
    (hrandom : random.length = 64) {p : Packet} (htype : p.type = packetAuthChallenge)
    (hp : p.payload = some (AuthChallenge.marshal ⟨generateChallenge random⟩)) :
    proofPacket C privKey p =
      .ok (signaturePacket (C.sign privKey (generateChallenge random))) := by
  have hread : readChallenge p = .ok (generateChallenge random) := by
    rw [readChallenge, htype, if_neg (by decide), if_neg (by decide),
      decodePayload_some hp (AuthChallenge.unmarshal_marshal _)]
    rfl
  have hsign : signChallenge C privKey (generateChallenge random) =
      .ok (Base64.encodeToString (C.sign privKey (generateChallenge random))) := by
    rw [signChallenge_eq_ok, trimSpace_generateChallenge]
    exact ⟨hkey, generateChallenge_ne_empty hrandom, rfl⟩
  have hproof : trimSpace packetAuthProof ≠ "" := by decide
  rw [proofPacket, hread]
  show (signChallenge C privKey (generateChallenge random)).bind _ = _
  rw [hsign]
  exact newPacket_ok hproof _

end Centralisd.Slave
