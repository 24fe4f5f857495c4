import Centralisd.Core.Packet

/-!
# Centralisd — the slave's packet handlers

`src/slave/handlers`: the two dispatch tables and `handleNodeCommand`. What
a command handler does on its host (docker, libvirt) is outside the
protocol: its output or error is an input.
-/

namespace Centralisd.Slave

/-- `PacketHandlers`. -/
inductive PacketHandler where
  | handleHeartbeat
  | handleNodeCommand
  deriving DecidableEq, Repr

def packetHandlers (type : String) : Option PacketHandler :=
  if type = packetHeartbeat then some .handleHeartbeat
  else if type = packetNodeCommand then some .handleNodeCommand
  else none

/-- The keys of `commandHandlers`. -/
def commandHandlers : List String :=
  ["docker.containers.list", "docker.images.list", "docker.image.pull", "docker.image.remove",
    "docker.container.create", "docker.container.start", "docker.container.stop",
    "docker.container.restart", "docker.container.remove", "libvirt.domains.list",
    "libvirt.storage.pools.list", "libvirt.networks.list", "libvirt.domain.create",
    "libvirt.domain.start", "libvirt.domain.shutdown", "libvirt.domain.reboot",
    "libvirt.domain.destroy", "libvirt.domain.delete", "libvirt.domain.autostart",
    "libvirt.domain.iso.attach", "libvirt.domain.iso.detach", "noop"]

/-- `handleNodeCommand` up to the call of the command's handler: the key of
the handler and its argument, or the reply that is written instead. -/
def commandHandler (packet : Packet) : Except CommandReply (String × NodeCommand) :=
  match decodePayload NodeCommand.unmarshal packet with
  | .error _ => .error { status := "error", message := "invalid command" }
  | .ok cmd =>
    if trimSpace cmd.action ∈ commandHandlers then .ok (trimSpace cmd.action, cmd)
    else .error { status := "error", message := "unknown action" }

/-- The reply `handleNodeCommand` makes of what the handler returned. -/
def handlerReply : Except String RawMessage → CommandReply
  | .error err => { status := "error", message := err }
  | .ok output => { status := "ok", output := output }

/-- The packet of `writeCommandReply`. -/
def writeCommandReply (replyTo : String) (payload : CommandReply) : Except String Packet :=
  newReply packetNodeCommandReply replyTo (some payload.marshal)

theorem writeCommandReply_ok (replyTo : String) (payload : CommandReply) :
    writeCommandReply replyTo payload = .ok
      { type := packetNodeCommandReply, replyTo := trimSpace replyTo,
        payload := some payload.marshal } := by
  have htype : trimSpace packetNodeCommandReply ≠ "" := by decide
  exact newReply_ok htype _ _

/-- `handleHeartbeat` on a hardware reading that was marshalled. -/
def handleHeartbeat (packet : Packet) (heartbeat : Json) : Except String Packet :=
  newReply packetHeartbeatReply packet.id (some heartbeat)

def handleNodeCommand (packet : Packet)
    (handler : String → NodeCommand → Except String RawMessage) : Except String Packet :=
  match commandHandler packet with
  | .error reply => writeCommandReply packet.id reply
  | .ok (action, cmd) => writeCommandReply packet.id (handlerReply (handler action cmd))

/-- A packet that the slave reads, with what its host would answer: the
hardware reading and the result of each command handler. -/
structure Received where
  packet : Packet
  heartbeat : Json
  handler : String → NodeCommand → Except String RawMessage

def PacketHandler.run (r : Received) : PacketHandler → Except String Packet
  | .handleHeartbeat => Slave.handleHeartbeat r.packet r.heartbeat
  | .handleNodeCommand => Slave.handleNodeCommand r.packet r.handler

/-- The packet loop of `Connect`: the packets written for those read, when no
write fails. -/
def packetLoop : List Received → List Packet
  | [] => []
  | r :: rest => match packetHandlers r.packet.type with
    | none => packetLoop rest
    | some handler => match handler.run r with
      | .error _ => []
      | .ok reply => reply :: packetLoop rest

/-- What is written without calling a handler is an error reply. -/
theorem commandHandler_error {packet : Packet} {reply : CommandReply}
    (h : commandHandler packet = .error reply) :
    reply.status = "error" ∧ reply.output = none ∧
      reply.message ∈ ["invalid command", "unknown action"] := by
  unfold commandHandler at h
  split at h
  · -- "invalid command"
    cases h
    exact ⟨rfl, rfl, by simp⟩
  · split at h
    · cases h
    · -- "unknown action"
      cases h
      exact ⟨rfl, rfl, by simp⟩

theorem packetHandlers_nodeCommand {type : String}
    (h : packetHandlers type = some .handleNodeCommand) : type = packetNodeCommand := by
  unfold packetHandlers at h
  split at h
  · cases h
  · split at h
    · next htype => exact htype
    · cases h

end Centralisd.Slave
