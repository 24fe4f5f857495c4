import Centralisd.Master.Client

/-!
# Centralisd — the master's session with the orchestrator

What `src/master/orchestrator_client.go` does with the packets of an
authenticated session: how `readOrchestratorLoop` tells answers from
commands, how `sendPacketAndExpectAuthOK` reads an answer, and the reply the
master makes of a node's reply.
-/

namespace Centralisd.Master

/-- What `readOrchestratorLoop` does with a packet it has read. -/
inductive Dispatch where
  /-- hand it to `sendPacketAndExpectAuthOK` over `respCh` -/
  | respond
  /-- log it and read on -/
  | ignore (text : String)
  /-- carry out a command -/
  | command (cmd : OrchestratorCommand)

def dispatch (packet : Packet) : Dispatch :=
  if packet.type = packetAuthOK ∨ packet.type = packetError then .respond
  else if packet.type ≠ packetOrchCommand then .ignore "orchestrator message unknown type"
  else match decodePayload OrchestratorCommand.unmarshal packet with
    | .error _ => .ignore "orchestrator command invalid payload"
    | .ok cmd =>
      -- `len(cmd.Command) == 0`
      if cmd.command.isNone then .ignore "orchestrator command missing command"
      else .command cmd

/-- How `sendPacketAndExpectAuthOK` reads the answer it has received. The
types that reach it need no escapes in `%q`. -/
def expectAuthOK (resp : Packet) : Except String Unit :=
  if resp.type = packetError then
    if trimSpace resp.error ≠ "" then .error ("orchestrator error: " ++ trimSpace resp.error)
    else .error ("orchestrator replied \"" ++ resp.type ++ "\"")
  else if resp.type ≠ packetAuthOK then
    .error ("orchestrator replied \"" ++ resp.type ++ "\"")
  else .ok ()

/-- The `node.command` packet the master sends on for a command. -/
def nodeCommandPacket (command : RawMessage) : Except String Packet :=
  newPacket packetNodeCommand command

/-- The reply the master makes of what `sendCommandToNodeWait` returned for
the node. -/
def nodeReply (nodeID : String) : Except String Packet → CommandReply
  | .error err => { nodeID := nodeID, status := "error", message := err }
  | .ok respPacket =>
    if respPacket.type ≠ packetNodeCommandReply then
      { nodeID := nodeID, status := "error", message := "unexpected reply type" }
    else match decodePayload CommandReply.unmarshal respPacket with
      | .error _ => { nodeID := nodeID, status := "error", message := "invalid reply payload" }
      | .ok replyPayload => { replyPayload with nodeID := nodeID }

/-- The `orchestrator.command.reply` packet for a command packet. -/
def replyPacket (packetID : String) (reply : CommandReply) : Except String Packet :=
  newReply packetOrchCommandReply packetID (some reply.marshal)

/-- A packet that `readOrchestratorLoop` reads, with what the calls it makes
for it would return: `handleMasterCommand` and `sendCommandToNodeWait`. -/
structure Received where
  packet : Packet
  handleMasterCommand : RawMessage → CommandReply
  sendCommandToNodeWait : String → Packet → Except String Packet

/-- What `readOrchestratorLoop` writes for a packet. The error of `NewReply`
is ignored; the empty packet it comes with is not written. -/
def Received.written (r : Received) : Option Packet :=
  match dispatch r.packet with
  | .respond => none
  | .ignore _ => none
  | .command cmd =>
    if cmd.nodeID = "" then
      (replyPacket r.packet.id (r.handleMasterCommand cmd.command)).toOption
    else match nodeCommandPacket cmd.command with
      | .error _ => none
      | .ok cmdPacket =>
        (replyPacket r.packet.id
          (nodeReply cmd.nodeID (r.sendCommandToNodeWait cmd.nodeID cmdPacket))).toOption

/-- `readOrchestratorLoop`: the packets written for those read, when no write
fails. -/
def readOrchestratorLoop (received : List Received) : List Packet :=
  received.filterMap Received.written

theorem replyPacket_ok (packetID : String) (reply : CommandReply) :
    replyPacket packetID reply = .ok
      { type := packetOrchCommandReply, replyTo := trimSpace packetID,
        payload := some reply.marshal } := by
  have htype : trimSpace packetOrchCommandReply ≠ "" := by decide
  exact newReply_ok htype _ _

theorem nodeCommandPacket_ok (command : RawMessage) :
    nodeCommandPacket command = .ok { type := packetNodeCommand, payload := command } := by
  have htype : trimSpace packetNodeCommand ≠ "" := by decide
  exact newPacket_ok htype _

theorem dispatch_command {packet : Packet} {cmd : OrchestratorCommand}
    (h : dispatch packet = .command cmd) :
    packet.type = packetOrchCommand ∧
      decodePayload OrchestratorCommand.unmarshal packet = .ok cmd := by
  unfold dispatch at h
  split at h
  · -- handed over on `respCh`
    cases h
  · split at h
    · -- "orchestrator message unknown type"
      cases h
    · next htype =>
      split at h
      · -- "orchestrator command invalid payload"
        cases h
      · next cmd' hdec =>
        split at h
        · -- "orchestrator command missing command"
          cases h
        · cases h
          exact ⟨not_not.mp htype, hdec⟩

/-- A command packet that decodes, and has a command, is carried out. -/
theorem dispatch_of_decoded {packet : Packet} {cmd : OrchestratorCommand}
    (htype : packet.type = packetOrchCommand)
    (hdec : decodePayload OrchestratorCommand.unmarshal packet = .ok cmd)
    (hcommand : cmd.command ≠ none) : dispatch packet = .command cmd := by
  have hanswer : ¬ (packet.type = packetAuthOK ∨ packet.type = packetError) := by
    rw [htype]
    decide
  rw [dispatch, if_neg hanswer, if_neg (not_not.mpr htype), hdec]
  exact if_neg fun hnone => hcommand (Option.isNone_iff_eq_none.mp hnone)

theorem dispatch_respond {packet : Packet} (h : dispatch packet = .respond) :
    packet.type = packetAuthOK ∨ packet.type = packetError := by
  unfold dispatch at h
  split at h
  · next htype => exact htype
  · split at h
    · cases h
    · split at h
      · cases h
      · split at h <;> cases h

theorem expectAuthOK_ok {packet : Packet} (h : packet.type = packetAuthOK) :
    expectAuthOK packet = .ok () := by
  have hne : packetAuthOK ≠ packetError := by decide
  rw [expectAuthOK, h, if_neg hne, if_neg (not_not.mpr rfl)]

end Centralisd.Master
