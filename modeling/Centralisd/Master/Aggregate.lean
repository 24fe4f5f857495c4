import Centralisd.Core.Records
import Centralisd.Master.OrchestratorLoop

/-!
# Centralisd — commands for the master itself

`handleMasterCommand` of `src/master/orchestrator_client.go`: a command
without a node. The one action it knows lists the domains of all connected
nodes. It asks them one after the other, in the order that
`listConnectedNodeIDs` takes from its map; what `sendCommandToNodeWait`
returns for each is an input.
-/

namespace Centralisd.Master

/-- The iteration of the loop for one node, on what
`sendCommandToNodeWait` returned for it. -/
def listNode (nodeID : String) : Except String Packet → VMListNode
  | .error err => { nodeID := nodeID, error := err }
  | .ok respPacket =>
    if respPacket.type ≠ packetNodeCommandReply then
      { nodeID := nodeID, error := "unexpected reply type" }
    else match decodePayload CommandReply.unmarshal respPacket with
      | .error _ => { nodeID := nodeID, error := "invalid reply payload" }
      | .ok replyPayload =>
        if replyPayload.status ≠ "ok" then { nodeID := nodeID, error := replyPayload.message }
        else match replyPayload.output.bind unmarshalVMDomains with
          | none => { nodeID := nodeID, error := "invalid domain list" }
          | some items => { nodeID := nodeID, domains := items }

/-- The loop over the connected nodes; an error ends the command. -/
def listNodes (command : RawMessage) (send : String → Packet → Except String Packet) :
    List String → Except String (List VMListNode)
  | [] => .ok []
  | nodeID :: rest =>
    if trimSpace nodeID = "" then listNodes command send rest
    else match nodeCommandPacket command with
      | .error _ => .error "invalid command packet"
      | .ok cmdPacket =>
        (listNodes command send rest).map (listNode nodeID (send nodeID cmdPacket) :: ·)

def handleMasterCommand (nodeIDs : List String) (send : String → Packet → Except String Packet)
    (command : RawMessage) : CommandReply :=
  match command.bind NodeCommand.unmarshal with
  | none => { status := "error", message := "invalid command" }
  | some cmd =>
    if cmd.action = "libvirt.domains.list" then
      match listNodes command send nodeIDs with
      | .error message => { status := "error", message := message }
      | .ok results => { status := "ok", output := some (VMListAggregate.marshal ⟨results⟩) }
    else { status := "error", message := "node id required" }

/-! ## The list -/

@[simp] theorem listNode_nodeID (nodeID : String) (outcome : Except String Packet) :
    (listNode nodeID outcome).nodeID = nodeID := by
  cases outcome with
  | error err => rfl
  | ok respPacket =>
    simp only [listNode]
    split
    · rfl
    · split
      · rfl
      · split
        · rfl
        · split <;> rfl

/-- The node has answered with a list of domains. -/
def Lists (outcome : Except String Packet) (items : List VMDomain) : Prop :=
  ∃ respPacket replyPayload, outcome = .ok respPacket ∧
    respPacket.type = packetNodeCommandReply ∧
    decodePayload CommandReply.unmarshal respPacket = .ok replyPayload ∧
    replyPayload.status = "ok" ∧ replyPayload.output.bind unmarshalVMDomains = some items

/-- The node has failed, and says nothing about it. -/
def FailsSilently (outcome : Except String Packet) : Prop :=
  outcome = .error "" ∨ ∃ respPacket replyPayload, outcome = .ok respPacket ∧
    respPacket.type = packetNodeCommandReply ∧
    decodePayload CommandReply.unmarshal respPacket = .ok replyPayload ∧
    replyPayload.status ≠ "ok" ∧ replyPayload.message = ""

theorem lists_ok_iff {respPacket : Packet} {reply : CommandReply} {items : List VMDomain}
    (htype : respPacket.type = packetNodeCommandReply)
    (hdec : decodePayload CommandReply.unmarshal respPacket = .ok reply) :
    Lists (.ok respPacket) items ↔
      reply.status = "ok" ∧ reply.output.bind unmarshalVMDomains = some items := by
  constructor
  · rintro ⟨p, r, ⟨⟩, -, hdec', hitems⟩
    cases hdec.symm.trans hdec'
    exact hitems
  · exact fun hitems => ⟨respPacket, reply, rfl, htype, hdec, hitems⟩

theorem failsSilently_ok_iff {respPacket : Packet} {reply : CommandReply}
    (htype : respPacket.type = packetNodeCommandReply)
    (hdec : decodePayload CommandReply.unmarshal respPacket = .ok reply) :
    FailsSilently (.ok respPacket) ↔ reply.status ≠ "ok" ∧ reply.message = "" := by
  constructor
  · rintro (⟨⟨⟩⟩ | ⟨p, r, ⟨⟩, -, hdec', hsilent⟩)
    cases hdec.symm.trans hdec'
    exact hsilent
  · exact fun hsilent => .inr ⟨respPacket, reply, rfl, htype, hdec, hsilent⟩

/-- A packet without a command reply in it lists nothing, and the error made
for it has a text. -/
theorem not_lists_of_undecoded {respPacket : Packet}
    (h : ∀ reply, respPacket.type = packetNodeCommandReply →
      decodePayload CommandReply.unmarshal respPacket ≠ .ok reply) :
    (∀ items, ¬ Lists (.ok respPacket) items) ∧ ¬ FailsSilently (.ok respPacket) := by
  constructor
  · rintro items ⟨p, r, ⟨⟩, htype, hdec, -⟩
    exact h r htype hdec
  · rintro (⟨⟨⟩⟩ | ⟨p, r, ⟨⟩, htype, hdec, -⟩)
    exact h r htype hdec

/-- What an entry is: the node's list, or an error without domains. The error
is empty for a node that fails silently. -/
theorem listNode_cases (nodeID : String) (outcome : Except String Packet) :
    (∃ items, Lists outcome items ∧ ¬ FailsSilently outcome ∧
      listNode nodeID outcome = { nodeID, domains := items }) ∨
    ((∀ items, ¬ Lists outcome items) ∧
      ∃ error, listNode nodeID outcome = { nodeID, error } ∧
        (error = "" ↔ FailsSilently outcome)) := by
  cases outcome with
  | error err =>
    refine .inr ⟨?_, err, rfl, ?_⟩
    · rintro items ⟨p, r, ⟨⟩, -⟩
    · constructor
      · rintro rfl
        exact .inl rfl
      · rintro (⟨⟨⟩⟩ | ⟨p, r, ⟨⟩, -⟩)
        rfl
  | ok respPacket =>
    unfold listNode
    dsimp only
    by_cases htype : respPacket.type = packetNodeCommandReply
    swap
    · -- "unexpected reply type"
      obtain ⟨hnone, hloud⟩ := not_lists_of_undecoded fun _ htype' _ => htype htype'
      rw [if_pos htype]
      exact .inr ⟨hnone, _, rfl, iff_of_false (by decide) hloud⟩
    rw [if_neg (not_not.mpr htype)]
    cases hdec : decodePayload CommandReply.unmarshal respPacket with
    | error err =>
      -- "invalid reply payload"
      obtain ⟨hnone, hloud⟩ : (∀ items, ¬ Lists (.ok respPacket) items) ∧
          ¬ FailsSilently (.ok respPacket) := by
        refine not_lists_of_undecoded fun reply _ hreply => ?_
        rw [hdec] at hreply
        cases hreply
      exact .inr ⟨hnone, _, rfl, iff_of_false (by decide) hloud⟩
    | ok reply =>
      simp only [lists_ok_iff htype hdec, failsSilently_ok_iff htype hdec]
      by_cases hstatus : reply.status = "ok"
      swap
      · -- the node's own error
        rw [if_pos hstatus]
        refine .inr ⟨fun items hitems => hstatus hitems.1, reply.message, rfl, ?_⟩
        exact (and_iff_right hstatus).symm
      rw [if_neg (not_not.mpr hstatus)]
      have hloud : ¬ (reply.status ≠ "ok" ∧ reply.message = "") := fun h => h.1 hstatus
      cases hout : reply.output.bind unmarshalVMDomains with
      | none =>
        -- "invalid domain list"
        refine .inr ⟨?_, _, rfl, iff_of_false (by decide) hloud⟩
        rintro items ⟨-, ⟨⟩⟩
      | some items => exact .inl ⟨items, ⟨hstatus, rfl⟩, hloud, rfl⟩

theorem Lists.unique {outcome : Except String Packet} {items items' : List VMDomain}
    (h : Lists outcome items) (h' : Lists outcome items') : items = items' := by
  obtain ⟨p, r, rfl, htype, hdec, -, hitems⟩ := h
  have hitems' := ((lists_ok_iff htype hdec).mp h').2
  exact Option.some.inj (hitems.symm.trans hitems')

/-- Packets for the nodes are always made, so the loop ends with one entry
for each node whose ID is not blank. -/
theorem listNodes_eq (command : RawMessage) (send : String → Packet → Except String Packet)
    (nodeIDs : List String) :
    listNodes command send nodeIDs = .ok ((nodeIDs.filter fun id => trimSpace id ≠ "").map
      fun id => listNode id (send id { type := packetNodeCommand, payload := command })) := by
  induction nodeIDs with
  | nil => rfl
  | cons nodeID rest ih =>
    unfold listNodes
    by_cases hblank : trimSpace nodeID = ""
    · rw [if_pos hblank, ih, List.filter_cons_of_neg (by simp [hblank])]
    · rw [if_neg hblank, nodeCommandPacket_ok, ih, List.filter_cons_of_pos (by simp [hblank])]
      rfl

end Centralisd.Master
