import Mathlib.Data.List.Forall2
import Centralisd.Master.OrchestratorLoop
import Centralisd.Slave.Handlers

/-!
# Centralisd — one reply per request

The two loops that answer requests, over whole sequences of packets: the
slave's packet loop (`src/slave/slave.go`) and the master's
`readOrchestratorLoop` (`src/master/orchestrator_client.go`). Requests carry
IDs made by `NewID`; payloads, and what the handlers and the nodes answer, are
arbitrary.

* `replies_one_each_iff` — the slave answers each request once and in order;
  the master does exactly when every command it reads decodes to one with a
  command in it.
-/

namespace Centralisd

/-- The packet's ID was made by `NewID`. -/
def Packet.HasNewID (p : Packet) : Prop := ∃ random, p.id = newID random

theorem Packet.HasNewID.trimSpace_id {p : Packet} (h : p.HasNewID) : trimSpace p.id = p.id := by
  obtain ⟨random, hid⟩ := h
  rw [hid, trimSpace_newID]

/-! ## The slave -/

namespace Slave

/-- The type of the reply to a request of the slave. -/
def replyType (type : String) : Option String :=
  if type = packetHeartbeat then some packetHeartbeatReply
  else if type = packetNodeCommand then some packetNodeCommandReply
  else none

/-- The reply is of the type for the request and names its ID. -/
def Answers (r : Received) (reply : Packet) : Prop :=
  replyType r.packet.type = some reply.type ∧ reply.replyTo = r.packet.id

/-- The replies are, in request order, one for each heartbeat and each node
command. -/
def AnswersEach (rs : List Received) : Prop :=
  List.Forall₂ Answers (rs.filter fun r => (replyType r.packet.type).isSome) (packetLoop rs)

/-- Each of the two handlers writes its reply, whatever the payload. -/
theorem run_answers {r : Received} {handler : PacketHandler} (hid : r.packet.HasNewID)
    (h : packetHandlers r.packet.type = some handler) :
    ∃ reply, handler.run r = .ok reply ∧ Answers r reply := by
  unfold packetHandlers at h
  split at h
  · next htype =>
    cases h
    have hreply : trimSpace packetHeartbeatReply ≠ "" := by decide
    refine ⟨_, newReply_ok hreply _ _, ?_, hid.trimSpace_id⟩
    rw [replyType, if_pos htype]
  · next hne =>
    split at h
    · next htype =>
      cases h
      have hwritten : ∃ payload, PacketHandler.handleNodeCommand.run r =
          writeCommandReply r.packet.id payload := by
        unfold PacketHandler.run handleNodeCommand
        cases commandHandler r.packet with
        | error reply => exact ⟨reply, rfl⟩
        | ok call => exact ⟨_, rfl⟩
      obtain ⟨payload, hwritten⟩ := hwritten
      refine ⟨_, hwritten.trans (writeCommandReply_ok _ _), ?_, hid.trimSpace_id⟩
      rw [replyType, if_neg hne, if_pos htype]
    · cases h

theorem replyType_isSome (type : String) :
    (replyType type).isSome = (packetHandlers type).isSome := by
  unfold replyType packetHandlers
  split
  · rfl
  · split <;> rfl

theorem packetLoop_answersEach (rs : List Received) (hid : ∀ r ∈ rs, r.packet.HasNewID) :
    AnswersEach rs := by
  unfold AnswersEach
  induction rs with
  | nil => exact .nil
  | cons r rest ih =>
    obtain ⟨hr, hrest⟩ := List.forall_mem_cons.mp hid
    rw [packetLoop, List.filter_cons]
    cases hh : packetHandlers r.packet.type with
    | none =>
      -- logged as unexpected, nothing is written
      rw [replyType_isSome, hh]
      exact ih hrest
    | some handler =>
      obtain ⟨reply, hrun, hans⟩ := run_answers hr hh
      rw [replyType_isSome, hh]
      dsimp only
      rw [hrun]
      exact .cons hans (ih hrest)

end Slave

/-! ## The master -/

namespace Master

/-- The reply is one to a command, and names the ID of its packet. -/
def Answers (r : Received) (reply : Packet) : Prop :=
  reply.type = packetOrchCommandReply ∧ reply.replyTo = r.packet.id

/-- The replies are, in request order, one for each command packet. -/
def AnswersEach (rs : List Received) : Prop :=
  List.Forall₂ Answers (rs.filter fun r => r.packet.type == packetOrchCommand)
    (readOrchestratorLoop rs)

/-- The payload of a command packet decodes, and has a command. -/
def Decodes (p : Packet) : Prop :=
  ∃ cmd, decodePayload OrchestratorCommand.unmarshal p = .ok cmd ∧ cmd.command ≠ none

theorem dispatch_of_orchCommand {p : Packet} (h : p.type = packetOrchCommand) :
    (∃ cmd, dispatch p = .command cmd) ↔ Decodes p := by
  constructor
  · rintro ⟨cmd, hcmd⟩
    have hanswer : ¬ (p.type = packetAuthOK ∨ p.type = packetError) := by
      rw [h]
      decide
    rw [dispatch, if_neg hanswer, if_neg (not_not.mpr h)] at hcmd
    split at hcmd
    · cases hcmd
    · next cmd' hdec =>
      split at hcmd
      · cases hcmd
      · next hsome => exact ⟨cmd', hdec, fun hnone => hsome (by rw [hnone]; rfl)⟩
  · rintro ⟨cmd, hdec, hsome⟩
    exact ⟨cmd, dispatch_of_decoded h hdec hsome⟩

/-- A command is answered, by the master or for the node. -/
theorem written_of_command {r : Received} {cmd : OrchestratorCommand} (hid : r.packet.HasNewID)
    (h : dispatch r.packet = .command cmd) : ∃ reply, r.written = some reply ∧ Answers r reply := by
  have hreply : ∀ payload, ∃ reply,
      (replyPacket r.packet.id payload).toOption = some reply ∧ Answers r reply := by
    intro payload
    rw [replyPacket_ok]
    exact ⟨_, rfl, rfl, hid.trimSpace_id⟩
  rw [Received.written, h]
  dsimp only
  split
  · exact hreply _
  · rw [nodeCommandPacket_ok]
    exact hreply _

theorem written_none {r : Received} (h : ∀ cmd, dispatch r.packet ≠ .command cmd) :
    r.written = none := by
  unfold Received.written
  split
  · rfl
  · rfl
  · next cmd hcmd => exact absurd hcmd (h cmd)

/-- A packet that is no command packet is no command. -/
theorem dispatch_ne_command {p : Packet} (h : p.type ≠ packetOrchCommand)
    (cmd : OrchestratorCommand) : dispatch p ≠ .command cmd :=
  fun hcmd => h (dispatch_command hcmd).1

/-- At most one packet is written for each command packet. -/
theorem readOrchestratorLoop_length_le (rs : List Received) :
    (readOrchestratorLoop rs).length ≤
      (rs.filter fun r => r.packet.type == packetOrchCommand).length := by
  induction rs with
  | nil => exact Nat.le_refl 0
  | cons r rest ih =>
    rw [readOrchestratorLoop, List.filterMap_cons, List.filter_cons]
    by_cases htype : r.packet.type = packetOrchCommand
    · rw [if_pos (beq_iff_eq.mpr htype), List.length_cons]
      cases r.written with
      | none => exact Nat.le_succ_of_le ih
      | some reply => exact Nat.succ_le_succ ih
    · rw [if_neg (mt beq_iff_eq.mp htype), written_none (dispatch_ne_command htype)]
      exact ih

theorem answersEach_iff (rs : List Received) (hid : ∀ r ∈ rs, r.packet.HasNewID) :
    AnswersEach rs ↔ ∀ r ∈ rs, r.packet.type = packetOrchCommand → Decodes r.packet := by
  unfold AnswersEach
  induction rs with
  | nil => exact iff_of_true .nil (by simp)
  | cons r rest ih =>
    obtain ⟨hr, hrest⟩ := List.forall_mem_cons.mp hid
    have ih := ih hrest
    rw [List.forall_mem_cons, ← ih, readOrchestratorLoop, List.filterMap_cons, List.filter_cons]
    by_cases htype : r.packet.type = packetOrchCommand
    · rw [if_pos (beq_iff_eq.mpr htype), imp_iff_right htype, ← dispatch_of_orchCommand htype]
      constructor
      · intro h
        by_cases hcmd : ∃ cmd, dispatch r.packet = .command cmd
        · obtain ⟨cmd, hcmd'⟩ := hcmd
          obtain ⟨reply, hwritten, -⟩ := written_of_command hr hcmd'
          rw [hwritten] at h
          exact ⟨⟨cmd, hcmd'⟩, (List.forall₂_cons.mp h).2⟩
        · -- dropped: the rest has too few replies
          rw [written_none (not_exists.mp hcmd)] at h
          have hlen : _ + 1 = (readOrchestratorLoop rest).length := h.length_eq
          have hle := readOrchestratorLoop_length_le rest
          omega
      · rintro ⟨⟨cmd, hcmd⟩, h⟩
        obtain ⟨reply, hwritten, hans⟩ := written_of_command hr hcmd
        rw [hwritten]
        exact .cons hans h
    · rw [if_neg (mt beq_iff_eq.mp htype), written_none (dispatch_ne_command htype)]
      exact ⟨fun h => ⟨fun ht => absurd ht htype, h⟩, fun h => h.2⟩

end Master

/-! ## Both -/

/-- **One reply per request.** For all sequences of packets with IDs made by
`NewID`, all payloads and all outcomes of the handlers and node calls: the
slave writes, in request order, one reply for each heartbeat and node
command; the master writes, in request order, one reply for each command
packet if and only if every command packet decodes with a command. -/
theorem replies_one_each_iff (slave : List Slave.Received) (master : List Master.Received)
    (hslave : ∀ r ∈ slave, r.packet.HasNewID) (hmaster : ∀ r ∈ master, r.packet.HasNewID) :
    (Slave.AnswersEach slave ∧ Master.AnswersEach master) ↔
      ∀ r ∈ master, r.packet.type = packetOrchCommand → Master.Decodes r.packet := by
  rw [and_iff_right (Slave.packetLoop_answersEach slave hslave)]
  exact Master.answersEach_iff master hmaster

/-- A heartbeat and a command for the master that decodes. -/
theorem replies_one_each_iff_noop :
    ∃ (s : Slave.Received) (m : Master.Received),
      s.packet.type = packetHeartbeat ∧ m.packet.type = packetOrchCommand ∧
      Slave.AnswersEach [s] ∧ Master.AnswersEach [m] := by
  let s : Slave.Received :=
    ⟨{ type := packetHeartbeat, id := newID (List.replicate 16 0) }, .null, fun _ _ => .ok none⟩
  let m : Master.Received :=
    ⟨{ type := packetOrchCommand, id := newID (List.replicate 16 0),
        payload := some (OrchestratorCommand.marshal ⟨"", some .null⟩) },
      fun _ => {}, fun _ _ => .error "node not connected"⟩
  refine ⟨s, m, rfl, rfl, (replies_one_each_iff [s] [m] ?_ ?_).mpr ?_⟩
  · exact List.forall_mem_singleton.mpr ⟨_, rfl⟩
  · exact List.forall_mem_singleton.mpr ⟨_, rfl⟩
  · refine List.forall_mem_singleton.mpr fun _ => ⟨⟨"", some .null⟩, ?_, by simp⟩
    exact decodePayload_some rfl (OrchestratorCommand.unmarshal_marshal "" .null)

/-- A command packet without a payload gets no reply. -/
theorem emptyCommand_unanswered :
    ∃ m : Master.Received, m.packet.type = packetOrchCommand ∧ m.packet.HasNewID ∧
      Master.readOrchestratorLoop [m] = [] ∧ ¬ Master.AnswersEach [m] := by
  refine ⟨⟨{ type := packetOrchCommand, id := newID (List.replicate 16 0) }, fun _ => {},
    fun _ _ => .error "node not connected"⟩, rfl, ⟨_, rfl⟩, rfl, fun h => ?_⟩
  exact absurd h.length_eq (by decide)

end Centralisd
