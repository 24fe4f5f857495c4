import Centralisd.Core.Packet

/-!
# Centralisd — handshake helpers

`src/core/protocol/handshake.go`: identities, challenges and their
signatures, and the hello line. `crypto/sha256` and `crypto/ed25519` are
the parameter `Crypto`; what a result assumes of them is a hypothesis of
that result.

* `verifyIDForPublicKey_iff` — an ID passes exactly when its trimmed form
  is the canonical `keyID` of the key;
* `verifyChallengeSignature_eq_true` — a signature passes exactly when the
  key has the right length and the decoded signature verifies over the
  challenge;
* `verifyChallengeSignature_ne_none` — the check never reaches the panic of
  `ed25519.Verify`.
-/

namespace Centralisd

/-- The hash and signature primitives. Messages are the strings whose bytes
are signed. -/
structure Crypto where
  sha256 : Bytes → Bytes
  sha256_length : ∀ b, (sha256 b).length = 32
  sign : (privKey : Bytes) → (message : String) → Bytes
  verify : (pubKey : Bytes) → (message : String) → (sig : Bytes) → Bool

/-- `ed25519.PublicKeySize`. -/
def publicKeySize : Nat := 32

def headerMasterSlave := "CENTRALISD-MS/1"
def headerOrchestrator := "CENTRALISD-ORCH/1"

/-- `base64url(raw(sha256(pubkey)))`. -/
def keyID (C : Crypto) (pubKey : Bytes) : String := Base64.encodeToString (C.sha256 pubKey)

def idFromPublicKey (C : Crypto) (pubKey : Bytes) : Except String String :=
  if pubKey.length ≠ publicKeySize then .error "invalid ed25519 public key length"
  else .ok (keyID C pubKey)

def verifyIDForPublicKey (C : Crypto) (id : String) (pubKey : Bytes) : Bool :=
  let id := trimSpace id
  if id = "" then false else id == keyID C pubKey

/-- `GenerateChallenge` on the 64 bytes the random source yields. -/
def generateChallenge (random : Bytes) : String := Base64.encodeToString random

def signChallenge (C : Crypto) (privKey : Bytes) (challenge : String) : Except String String :=
  if privKey.length = 0 then .error "private key missing"
  else
    let challenge := trimSpace challenge
    if challenge = "" then .error "challenge empty"
    else .ok (Base64.encodeToString (C.sign privKey challenge))

/-- `ed25519.Verify`, which panics (`none`) on a key of the wrong length. -/
def ed25519Verify (C : Crypto) (pubKey : Bytes) (message : String) (sig : Bytes) : Option Bool :=
  if pubKey.length = publicKeySize then some (C.verify pubKey message sig) else none

def verifyChallengeSignature (C : Crypto) (pubKey : Bytes) (challenge sigB64 : String) :
    Option Bool :=
  if pubKey.length ≠ publicKeySize then some false
  else match Base64.decodeString (trimSpace sigB64) with
    | none => some false
    | some sig => ed25519Verify C pubKey challenge sig

/-- `ReadHello`: the line read, or `none` for a read error, against the
expected header. -/
def readHello (expected : String) (line : Option String) : Except String Unit :=
  let expected := trimSpace expected
  if expected = "" then .error "expected header empty"
  else match line with
    | none => .error "read"
    | some line =>
      let line := trimSpace line
      if line = "" then .error "empty line"
      else if line ≠ expected then .error "unexpected header"
      else .ok ()

/-- What a handshake that was accepted leaves behind: the hello and key the
client presented, the challenge issued on the connection and the signature
read on it. -/
structure Credentials where
  hello : AuthHello
  pubKey : Bytes
  challenge : String
  signature : String
  deriving DecidableEq, Repr

/-- The signature was read as one over the connection's own challenge, valid
under a key of the right length. -/
def Credentials.Proven (C : Crypto) (cr : Credentials) : Prop :=
  cr.pubKey.length = publicKeySize ∧
    ∃ sig, Base64.decodeString (trimSpace cr.signature) = some sig ∧
      C.verify cr.pubKey cr.challenge sig = true

/-- The `auth.hello` packet of a client. -/
def helloPacket (authHello : AuthHello) : Packet :=
  { type := packetAuthHello, payload := some authHello.marshal }

/-- The `auth.proof` packet of a client with a signature to present. -/
def signaturePacket (sig : Bytes) : Packet :=
  { type := packetAuthProof, payload := some (AuthProof.marshal ⟨Base64.encodeToString sig⟩) }

/-! ## What the checks establish -/

theorem keyID_ne_empty (C : Crypto) (pubKey : Bytes) : keyID C pubKey ≠ "" := by
  apply Base64.encodeToString_ne_empty
  intro h
  have := C.sha256_length pubKey
  rw [h] at this
  exact absurd this (by decide)

@[simp] theorem trimSpace_keyID (C : Crypto) (pubKey : Bytes) :
    trimSpace (keyID C pubKey) = keyID C pubKey :=
  Base64.trimSpace_encodeToString _

theorem verifyIDForPublicKey_iff (C : Crypto) (id : String) (pubKey : Bytes) :
    verifyIDForPublicKey C id pubKey = true ↔ trimSpace id = keyID C pubKey := by
  unfold verifyIDForPublicKey
  by_cases h : trimSpace id = ""
  · -- no key has the empty ID
    simp only [h, if_true]
    exact ⟨fun hf => absurd hf (by decide), fun hk => absurd hk.symm (keyID_ne_empty C pubKey)⟩
  · simp only [h, if_false, beq_iff_eq]

/-- An accepted ID is never empty. -/
theorem id_ne_empty_of_verify {C : Crypto} {id : String} {pubKey : Bytes}
    (h : trimSpace id = keyID C pubKey) : id ≠ "" := by
  rintro rfl
  rw [trimSpace_empty] at h
  exact keyID_ne_empty C pubKey h.symm

theorem verifyChallengeSignature_ne_none (C : Crypto) (pubKey : Bytes)
    (challenge sigB64 : String) :
    verifyChallengeSignature C pubKey challenge sigB64 ≠ none := by
  unfold verifyChallengeSignature
  split
  · exact Option.some_ne_none _
  · next hlen =>
    split
    · exact Option.some_ne_none _
    · -- `ed25519.Verify` panics on other lengths only
      rw [ed25519Verify, if_pos (not_not.mp hlen)]
      exact Option.some_ne_none _

theorem verifyChallengeSignature_eq_true (C : Crypto) (pubKey : Bytes)
    (challenge sigB64 : String) :
    verifyChallengeSignature C pubKey challenge sigB64 = some true ↔
      pubKey.length = publicKeySize ∧ ∃ sig, Base64.decodeString (trimSpace sigB64) = some sig ∧
        C.verify pubKey challenge sig = true := by
  unfold verifyChallengeSignature
  by_cases hlen : pubKey.length = publicKeySize
  · rw [if_neg (not_not.mpr hlen)]
    cases hsig : Base64.decodeString (trimSpace sigB64) with
    | none => simp
    | some sig => simp [ed25519Verify, hlen]
  · rw [if_pos hlen]
    simp [hlen]

/-- A challenge has nothing to trim. -/
@[simp] theorem trimSpace_generateChallenge (random : Bytes) :
    trimSpace (generateChallenge random) = generateChallenge random :=
  Base64.trimSpace_encodeToString _

theorem generateChallenge_ne_empty {random : Bytes} (h : random.length = 64) :
    generateChallenge random ≠ "" := by
  apply Base64.encodeToString_ne_empty
  rintro rfl
  exact absurd h (by decide)

theorem signChallenge_eq_ok {C : Crypto} {privKey : Bytes} {challenge sigStr : String} :
    signChallenge C privKey challenge = .ok sigStr ↔
      privKey.length ≠ 0 ∧ trimSpace challenge ≠ "" ∧
        Base64.encodeToString (C.sign privKey (trimSpace challenge)) = sigStr := by
  unfold signChallenge
  by_cases hkey : privKey.length = 0
  · simp [hkey]
  · by_cases hch : trimSpace challenge = ""
    · simp [hkey, hch]
    · simp [hkey, hch]

/-- What a signer produces over a challenge passes the check. -/
theorem verifyChallengeSignature_encode {C : Crypto} {pubKey sig : Bytes} {challenge : String}
    (hlen : pubKey.length = publicKeySize) (hverify : C.verify pubKey challenge sig = true) :
    verifyChallengeSignature C pubKey challenge (Base64.encodeToString sig) = some true :=
  (verifyChallengeSignature_eq_true C _ _ _).mpr
    ⟨hlen, sig, by rw [Base64.trimSpace_encodeToString, Base64.decodeString_encodeToString],
      hverify⟩

/-! ## A transparent instance

For closed runs: the digest is a padded prefix, a private key is its own
public key, and a signature is the key followed by the message. Signatures
are as unforgeable as equality of byte strings. -/

def messageBytes (message : String) : Bytes := message.toByteArray.data.toList

theorem messageBytes_inj {m m' : String} (h : messageBytes m = messageBytes m') : m = m' := by
  apply String.toByteArray_inj.mp
  apply ByteArray.ext
  exact Array.toList_inj.mp h

def Crypto.transparent : Crypto where
  sha256 := fun b => (b ++ List.replicate 32 0).take 32
  sha256_length := fun b => by simp
  sign := fun privKey message => privKey ++ messageBytes message
  verify := fun pubKey message sig => decide (sig = pubKey ++ messageBytes message)

theorem Crypto.transparent_verify (key : Bytes) (message : String) :
    Crypto.transparent.verify key message (Crypto.transparent.sign key message) = true := by
  simp [Crypto.transparent]

/-- A transparent signature is valid for one message only. -/
theorem Crypto.transparent_binds {key sig : Bytes} {m m' : String}
    (h : Crypto.transparent.verify key m sig = true)
    (h' : Crypto.transparent.verify key m' sig = true) : m = m' := by
  simp only [Crypto.transparent, decide_eq_true_eq] at h h'
  exact messageBytes_inj (List.append_cancel_left (h.symm.trans h'))

/-- The key of the closed runs. -/
def demoKey : Bytes := List.replicate 32 7

end Centralisd
