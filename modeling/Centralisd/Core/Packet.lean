import Centralisd.Core.Encoding

/-!
# Centralisd — packets and their payloads

The wire values of `src/core/protocol`: the `Packet` envelope of
`packet.go` and the payload records of `types.go`, with what
`encoding/json` makes of them.

JSON texts are represented by the value they denote. A `json.RawMessage`
is an `Option Json`: `none` is the empty message, so `len(raw) == 0` is
`raw = none`, while a literal `null` is `some .null`.

Unmarshalling a record follows `encoding/json`: keys match field names
exactly or up to case folding, unknown keys are skipped, a later duplicate
overrides, `null` leaves a field alone, and a value of the wrong kind is an
error. Marshalling drops `omitempty` fields. The round trips at the end
(`unmarshal_marshal`) are what the sessions rely on.
-/

namespace Centralisd

/-! ## JSON values -/

/-- A JSON value. A number is `mantissa · 10 ^ (-exponent)`; the exponent is
zero for the literals of integers only. The literal `-0` has a value of its
own, which `ParseInt` takes and `ParseUint` does not. -/
inductive Json where
  | null
  | bool (b : Bool)
  | num (mantissa : Int) (exponent : Nat)
  | minusZero
  | str (s : String)
  | arr (xs : List Json)
  | obj (fields : List (String × Json))

/-- `json.RawMessage`; `none` has length zero. -/
abbrev RawMessage := Option Json

namespace Json

/-- `foldRune` on the characters that can meet an ASCII field name: the
lower-case letters, the long s and the Kelvin sign. -/
def foldRune (c : Char) : Char :=
  if 'a' ≤ c ∧ c ≤ 'z' then Char.ofNat (c.toNat - 32)
  else if c = '\u017f' then 'S'
  else if c = '\u212a' then 'K'
  else c

/-- `foldName`: the key under which a field is looked up. -/
def foldName (s : String) : String := String.ofList (s.toList.map foldRune)

/-- `json.Unmarshal` into a struct holding `old`, whose fields `set` assigns
by folded name. -/
def unmarshalStruct {T : Type} (set : String → Json → T → Option T) (old : T) :
    Json → Option T
  | .null => some old
  | .obj fields => fields.foldlM (fun t f => set (foldName f.1) f.2 t) old
  | _ => none

/-- Assigning a JSON value to a string field. -/
def asString (old : String) : Json → Option String
  | .str s => some s
  | .null => some old
  | _ => none

/-- Assigning the elements of a JSON array to a slice. An element the slice
already has is unmarshalled into, as when a key occurs twice. -/
def asElems {T : Type} (elem : T → Json → Option T) (zero : T) :
    List T → List Json → Option (List T)
  | _, [] => some []
  | old, x :: xs => do
    let t ← elem (old.headD zero) x
    let ts ← asElems elem zero old.tail xs
    return t :: ts

/-- Assigning a JSON value to a slice field. -/
def asSlice {T : Type} (elem : T → Json → Option T) (zero : T) (old : List T) :
    Json → Option (List T)
  | .arr xs => asElems elem zero old xs
  | .null => some []
  | _ => none

/-- A string field with `omitempty`. -/
def omitEmpty (key value : String) : List (String × Json) :=
  if value = "" then [] else [(key, .str value)]

/-- A raw field with `omitempty`. -/
def omitEmptyRaw (key : String) : RawMessage → List (String × Json)
  | none => []
  | some v => [(key, v)]

end Json

open Json

/-! ## Payload records (`types.go`) -/

structure AuthHello where
  id : String := ""
  pubKey : String := ""
  role : String := ""
  name : String := ""
  cluster : String := ""
  advertise : String := ""
  deriving DecidableEq, Repr

def AuthHello.set (key : String) (v : Json) (h : AuthHello) : Option AuthHello :=
  match key with
  | "ID" => (asString h.id v).map fun s => { h with id := s }
  | "PUBKEY" => (asString h.pubKey v).map fun s => { h with pubKey := s }
  | "ROLE" => (asString h.role v).map fun s => { h with role := s }
  | "NAME" => (asString h.name v).map fun s => { h with name := s }
  | "CLUSTER" => (asString h.cluster v).map fun s => { h with cluster := s }
  | "ADVERTISE" => (asString h.advertise v).map fun s => { h with advertise := s }
  | _ => some h

def AuthHello.unmarshal : Json → Option AuthHello := unmarshalStruct AuthHello.set {}

def AuthHello.marshal (h : AuthHello) : Json :=
  .obj ([("id", .str h.id), ("pubkey", .str h.pubKey), ("role", .str h.role)] ++
    omitEmpty "name" h.name ++ omitEmpty "cluster" h.cluster ++
    omitEmpty "advertise" h.advertise)

structure AuthChallenge where
  challenge : String := ""
  deriving DecidableEq, Repr

def AuthChallenge.set (key : String) (v : Json) (c : AuthChallenge) : Option AuthChallenge :=
  match key with
  | "CHALLENGE" => (asString c.challenge v).map AuthChallenge.mk
  | _ => some c

def AuthChallenge.unmarshal : Json → Option AuthChallenge :=
  unmarshalStruct AuthChallenge.set {}

def AuthChallenge.marshal (c : AuthChallenge) : Json := .obj [("challenge", .str c.challenge)]

structure AuthProof where
  signature : String := ""
  deriving DecidableEq, Repr

def AuthProof.set (key : String) (v : Json) (p : AuthProof) : Option AuthProof :=
  match key with
  | "SIGNATURE" => (asString p.signature v).map AuthProof.mk
  | _ => some p

def AuthProof.unmarshal : Json → Option AuthProof := unmarshalStruct AuthProof.set {}

def AuthProof.marshal (p : AuthProof) : Json := .obj [("signature", .str p.signature)]

theorem AuthProof.unmarshal_marshal (p : AuthProof) : AuthProof.unmarshal p.marshal = some p := by
  simp [AuthProof.unmarshal, AuthProof.marshal, unmarshalStruct]
  rfl

structure NodeInfo where
  id : String := ""
  name : String := ""
  ip : String := ""
  deriving DecidableEq, Repr

def NodeInfo.set (key : String) (v : Json) (n : NodeInfo) : Option NodeInfo :=
  match key with
  | "ID" => (asString n.id v).map fun s => { n with id := s }
  | "NAME" => (asString n.name v).map fun s => { n with name := s }
  | "IP" => (asString n.ip v).map fun s => { n with ip := s }
  | _ => some n

def NodeInfo.unmarshal (old : NodeInfo) : Json → Option NodeInfo :=
  unmarshalStruct NodeInfo.set old

def NodeInfo.marshal (n : NodeInfo) : Json :=
  .obj [("id", .str n.id), ("name", .str n.name), ("ip", .str n.ip)]

structure MasterInfo where
  id : String := ""
  name : String := ""
  cluster : String := ""
  advertise : String := ""
  pubKey : String := ""
  nodes : List NodeInfo := []
  deriving DecidableEq, Repr

def MasterInfo.set (key : String) (v : Json) (m : MasterInfo) : Option MasterInfo :=
  match key with
  | "ID" => (asString m.id v).map fun s => { m with id := s }
  | "NAME" => (asString m.name v).map fun s => { m with name := s }
  | "CLUSTER" => (asString m.cluster v).map fun s => { m with cluster := s }
  | "ADVERTISE" => (asString m.advertise v).map fun s => { m with advertise := s }
  | "PUBKEY" => (asString m.pubKey v).map fun s => { m with pubKey := s }
  | "NODES" => (asSlice NodeInfo.unmarshal {} m.nodes v).map fun ns => { m with nodes := ns }
  | _ => some m

def MasterInfo.unmarshal : Json → Option MasterInfo := unmarshalStruct MasterInfo.set {}

def MasterInfo.marshal (m : MasterInfo) : Json :=
  .obj [("id", .str m.id), ("name", .str m.name), ("cluster", .str m.cluster),
    ("advertise", .str m.advertise), ("pubKey", .str m.pubKey),
    ("nodes", .arr (m.nodes.map NodeInfo.marshal))]

structure OrchestratorCommand where
  nodeID : String := ""
  command : RawMessage := none

def OrchestratorCommand.set (key : String) (v : Json) (c : OrchestratorCommand) :
    Option OrchestratorCommand :=
  match key with
  | "NODE_ID" => (asString c.nodeID v).map fun s => { c with nodeID := s }
  | "COMMAND" => some { c with command := some v }
  | _ => some c

def OrchestratorCommand.unmarshal : Json → Option OrchestratorCommand :=
  unmarshalStruct OrchestratorCommand.set {}

/-- A nil `Command` is written as `null`. -/
def OrchestratorCommand.marshal (c : OrchestratorCommand) : Json :=
  .obj [("node_id", .str c.nodeID), ("command", c.command.getD .null)]

structure CommandReply where
  nodeID : String := ""
  status : String := ""
  message : String := ""
  output : RawMessage := none

def CommandReply.set (key : String) (v : Json) (r : CommandReply) : Option CommandReply :=
  match key with
  | "NODE_ID" => (asString r.nodeID v).map fun s => { r with nodeID := s }
  | "STATUS" => (asString r.status v).map fun s => { r with status := s }
  | "MESSAGE" => (asString r.message v).map fun s => { r with message := s }
  | "OUTPUT" => some { r with output := some v }
  | _ => some r

def CommandReply.unmarshal : Json → Option CommandReply := unmarshalStruct CommandReply.set {}

def CommandReply.marshal (r : CommandReply) : Json :=
  .obj (omitEmpty "node_id" r.nodeID ++ [("status", .str r.status)] ++
    omitEmpty "message" r.message ++ omitEmptyRaw "output" r.output)

structure NodeCommand where
  action : String := ""
  params : RawMessage := none

def NodeCommand.set (key : String) (v : Json) (c : NodeCommand) : Option NodeCommand :=
  match key with
  | "ACTION" => (asString c.action v).map fun s => { c with action := s }
  | "PARAMS" => some { c with params := some v }
  | _ => some c

def NodeCommand.unmarshal : Json → Option NodeCommand := unmarshalStruct NodeCommand.set {}

/-! ## The envelope (`packet.go`) -/

/-- The packet types (`PacketType`). The field of a packet is a string: a
peer may send any other. -/
def packetError := "error"
def packetAuthHello := "auth.hello"
def packetAuthChallenge := "auth.challenge"
def packetAuthProof := "auth.proof"
def packetAuthOK := "auth.ok"
def packetHeartbeat := "heartbeat"
def packetHeartbeatReply := "heartbeat.reply"
def packetNodeCommand := "node.command"
def packetNodeCommandReply := "node.command.reply"
def packetOrchCommand := "orchestrator.command"
def packetOrchCommandReply := "orchestrator.command.reply"
def packetMasterRegister := "master.register"
def packetMasterHeartbeat := "master.heartbeat"

structure Packet where
  type : String
  id : String := ""
  replyTo : String := ""
  error : String := ""
  payload : RawMessage := none

/-- `NewPacket`. The payload is already marshalled; `none` is a nil one. -/
def newPacket (packetType : String) (payload : RawMessage) : Except String Packet :=
  if trimSpace packetType = "" then .error "packet type is empty"
  else .ok { type := packetType, payload := payload }

def newError (message : String) : Packet :=
  { type := packetError, error := trimSpace message }

def newReply (packetType replyTo : String) (payload : RawMessage) : Except String Packet :=
  (newPacket packetType payload).map fun p => { p with replyTo := trimSpace replyTo }

/-- `DecodePayload`, into the record that `unmarshal` reads. -/
def decodePayload {T : Type} (unmarshal : Json → Option T) (p : Packet) : Except String T :=
  match p.payload with
  | none => .error "payload is empty"
  | some v => match unmarshal v with
    | none => .error "json"
    | some t => .ok t

theorem decodePayload_some {T : Type} {unmarshal : Json → Option T} {p : Packet} {v : Json} {t : T}
    (hp : p.payload = some v) (hv : unmarshal v = some t) : decodePayload unmarshal p = .ok t := by
  simp [decodePayload, hp, hv]

/-- `NewID` on the 16 bytes the random source yields. -/
def newID (random : Bytes) : String := Base64.encodeToString random

@[simp] theorem trimSpace_newID (random : Bytes) : trimSpace (newID random) = newID random :=
  Base64.trimSpace_encodeToString random

/-! ## The envelope's constants

`NewPacket` fails only on a blank type, so it succeeds on every constant. -/

theorem newPacket_ok {packetType : String} (h : trimSpace packetType ≠ "") (payload : RawMessage) :
    newPacket packetType payload = .ok { type := packetType, payload := payload } :=
  if_neg h

theorem newReply_ok {packetType : String} (h : trimSpace packetType ≠ "") (replyTo : String)
    (payload : RawMessage) :
    newReply packetType replyTo payload =
      .ok { type := packetType, replyTo := trimSpace replyTo, payload := payload } := by
  rw [newReply, newPacket_ok h]
  rfl

/-! ## Round trips -/

theorem AuthHello.unmarshal_marshal (h : AuthHello) : AuthHello.unmarshal h.marshal = some h := by
  -- an omitted field reads back as the empty string it stands for
  obtain ⟨id, pubKey, role, name, cluster, advertise⟩ := h
  by_cases hn : name = "" <;> by_cases hc : cluster = "" <;> by_cases ha : advertise = "" <;>
    simp [AuthHello.unmarshal, AuthHello.marshal, unmarshalStruct, omitEmpty, hn, hc, ha] <;> rfl

theorem AuthChallenge.unmarshal_marshal (c : AuthChallenge) :
    AuthChallenge.unmarshal c.marshal = some c := by
  simp [AuthChallenge.unmarshal, AuthChallenge.marshal, unmarshalStruct]
  rfl

theorem NodeInfo.unmarshal_marshal (n old : NodeInfo) :
    NodeInfo.unmarshal old n.marshal = some n := by
  simp [NodeInfo.unmarshal, NodeInfo.marshal, unmarshalStruct]
  rfl

theorem asElems_marshal (ns old : List NodeInfo) :
    asElems NodeInfo.unmarshal {} old (ns.map NodeInfo.marshal) = some ns := by
  induction ns generalizing old with
  | nil => rfl
  | cons n ns ih =>
    simp [asElems, NodeInfo.unmarshal_marshal, ih]

theorem MasterInfo.unmarshal_marshal (m : MasterInfo) :
    MasterInfo.unmarshal m.marshal = some m := by
  -- the list is the one field whose length is not fixed
  have hnodes : ∀ acc : MasterInfo, MasterInfo.set (foldName "nodes")
      (.arr (m.nodes.map NodeInfo.marshal)) acc = some { acc with nodes := m.nodes } := by
    intro acc
    show (asSlice NodeInfo.unmarshal {} acc.nodes (.arr (m.nodes.map NodeInfo.marshal))).map _ = _
    rw [asSlice, asElems_marshal]
    rfl
  simp only [MasterInfo.unmarshal, MasterInfo.marshal, unmarshalStruct, List.foldlM_cons,
    List.foldlM_nil, hnodes]
  rfl

theorem OrchestratorCommand.unmarshal_marshal (nodeID : String) (v : Json) :
    OrchestratorCommand.unmarshal (OrchestratorCommand.marshal ⟨nodeID, some v⟩) =
      some ⟨nodeID, some v⟩ := by
  simp [OrchestratorCommand.unmarshal, OrchestratorCommand.marshal, unmarshalStruct]
  rfl

theorem CommandReply.unmarshal_marshal (r : CommandReply) :
    CommandReply.unmarshal r.marshal = some r := by
  obtain ⟨nodeID, status, message, output⟩ := r
  by_cases hn : nodeID = "" <;> by_cases hm : message = "" <;> cases output <;>
    simp [CommandReply.unmarshal, CommandReply.marshal, unmarshalStruct, omitEmpty,
      omitEmptyRaw, hn, hm] <;> rfl

end Centralisd
