import Centralisd.Master.Aggregate
import Centralisd.Orchestrator.Registry
import Centralisd.Web.Fetch

/-!
# Centralisd — the list of virtual machines of a cluster

The page of a cluster's machines asks each of its masters for
`libvirt.domains.list`; a master asks each of its nodes and sends one
aggregate back.

* `vm_list_complete` — every connected node has exactly one entry, made of
  its own answer alone, in whatever order the maps are taken; the aggregate
  is read back as it was sent; and the page shows the aggregates one after
  the other, with one error entry for a master that failed.
-/

namespace Centralisd

open Master Orchestrator Web

/-- The entries that a master makes of its nodes' outcomes. -/
structure AggregateOf (nodeIDs : List String) (outcome : String → Except String Packet)
    (nodes : List VMListNode) : Prop where
  /-- one entry for each node whose ID is not blank, and no others -/
  ids : nodes.map VMListNode.nodeID = nodeIDs.filter fun id => trimSpace id ≠ ""
  once : (nodes.map VMListNode.nodeID).Nodup
  /-- made of the node's own outcome -/
  own : ∀ n ∈ nodes, n = listNode n.nodeID (outcome n.nodeID)
  /-- its list if there is one, else an error and no domains -/
  listed : ∀ n ∈ nodes, ∀ items, Lists (outcome n.nodeID) items → n.domains = items ∧ n.error = ""
  failed : ∀ n ∈ nodes, (∀ items, ¬ Lists (outcome n.nodeID) items) → n.domains = []

/-- A master's reply carries an aggregate. -/
def Aggregates (outcome : Except String CommandReply) (nodes : List VMListNode) : Prop :=
  ∃ reply, outcome = .ok reply ∧ reply.status = "ok" ∧
    reply.output.bind VMListAggregate.unmarshal = some ⟨nodes⟩

/-! ## A master -/

/-- The packet that each node gets. -/
def listPacket (command : Json) : Packet where
  type := packetNodeCommand
  payload := some command

def listEntries (command : Json) (nodeIDs : List String)
    (send : String → Packet → Except String Packet) : List VMListNode :=
  (nodeIDs.filter fun id => trimSpace id ≠ "").map fun id =>
    listNode id (send id (listPacket command))

theorem handleMasterCommand_list {command : Json} {cmd : NodeCommand}
    (hcmd : NodeCommand.unmarshal command = some cmd)
    (haction : cmd.action = "libvirt.domains.list")
    (nodeIDs : List String) (send : String → Packet → Except String Packet) :
    handleMasterCommand nodeIDs send (some command) =
      { status := "ok"
        output := some (VMListAggregate.marshal ⟨listEntries command nodeIDs send⟩) } := by
  unfold handleMasterCommand
  rw [Option.bind_some, hcmd]
  dsimp only
  rw [if_pos haction, listNodes_eq]
  rfl

theorem aggregateOf_listEntries (command : Json) {nodeIDs : List String} (hids : nodeIDs.Nodup)
    (send : String → Packet → Except String Packet) :
    AggregateOf nodeIDs (fun id => send id (listPacket command))
      (listEntries command nodeIDs send) := by
  have hmap : (listEntries command nodeIDs send).map VMListNode.nodeID =
      nodeIDs.filter fun id => trimSpace id ≠ "" := by
    unfold listEntries
    rw [List.map_map]
    exact List.map_id'' (fun id => listNode_nodeID id _) _
  have hown : ∀ n ∈ listEntries command nodeIDs send,
      n = listNode n.nodeID (send n.nodeID (listPacket command)) := by
    intro n hn
    obtain ⟨id, -, rfl⟩ := List.mem_map.mp hn
    rw [listNode_nodeID]
  refine ⟨hmap, hmap ▸ hids.filter _, hown, fun n hn items hlists => ?_, fun n hn hno => ?_⟩
  · rcases listNode_cases n.nodeID (send n.nodeID (listPacket command)) with
      ⟨items', hlists', -, hentry⟩ | ⟨hnone, -⟩
    · rw [hown n hn, hentry]
      exact ⟨hlists'.unique hlists, rfl⟩
    · exact absurd hlists (hnone items)
  · rcases listNode_cases n.nodeID (send n.nodeID (listPacket command)) with
      ⟨items, hlists, -, -⟩ | ⟨-, error, hentry, -⟩
    · exact absurd hlists (hno items)
    · rw [hown n hn, hentry]

theorem listEntries_perm (command : Json) {nodeIDs nodeIDs' : List String}
    (h : nodeIDs.Perm nodeIDs') (send : String → Packet → Except String Packet) :
    (listEntries command nodeIDs send).Perm (listEntries command nodeIDs' send) :=
  (h.filter _).map _

/-! ## The page -/

/-- A master contributes its aggregate, or one error entry. -/
theorem masterDomains_cases (masterID : String) (outcome : Except String CommandReply) :
    (∃ nodes, Aggregates outcome nodes ∧ masterDomains masterID outcome = nodes) ∨
    ((∀ nodes, ¬ Aggregates outcome nodes) ∧
      ∃ error, masterDomains masterID outcome = [{ nodeID := masterID, error }]) := by
  cases outcome with
  | error err =>
    refine .inr ⟨?_, err, rfl⟩
    rintro nodes ⟨reply, ⟨⟩, -⟩
  | ok reply =>
    unfold masterDomains
    dsimp only
    by_cases hstatus : reply.status = "ok"
    swap
    · rw [if_pos hstatus]
      refine .inr ⟨?_, reply.message, rfl⟩
      rintro nodes ⟨reply', ⟨⟩, hok, -⟩
      exact hstatus hok
    rw [if_neg (not_not.mpr hstatus)]
    cases hout : reply.output.bind VMListAggregate.unmarshal with
    | none =>
      refine .inr ⟨?_, _, rfl⟩
      rintro nodes ⟨reply', ⟨⟩, -, hnodes⟩
      rw [hout] at hnodes
      cases hnodes
    | some aggregate => exact .inl ⟨aggregate.nodes, ⟨reply, rfl, hstatus, hout⟩, rfl⟩

/-- The command that the page sends to the masters. -/
def listCommand : Json := NodeCommand.marshal ⟨"libvirt.domains.list", none⟩

theorem fetchVMDomains_eq (send : String → RawMessage → Except String CommandReply)
    {masters : List MasterEntry} (hids : ∀ m ∈ masters, m.id ≠ "") :
    fetchVMDomains send masters =
      masters.flatMap fun m => masterDomains m.id (send m.id (some listCommand)) := by
  induction masters with
  | nil => rfl
  | cons m rest ih =>
    rw [List.forall_mem_cons] at hids
    rw [fetchVMDomains, if_neg hids.1, ih hids.2, List.flatMap_cons]
    rfl

/-- `UpsertMaster` stores no master without an ID. -/
theorem masters_id_ne {s : Store} (hs : s.Inv) {order : List MasterEntry}
    (horder : order.Perm s.values) (now : Int) (c : String) :
    ∀ m ∈ s.mastersForCluster order now c, m.id ≠ "" := by
  intro m hm
  by_cases hc : c = ""
  · rw [Store.mastersForCluster, if_pos hc] at hm
    cases hm
  · obtain ⟨hmem, -⟩ := (mem_masters_iff horder hc).mp hm
    obtain ⟨k, hk⟩ := mem_values.mp hmem
    obtain ⟨hid, hne⟩ := hs.ids k m hk
    exact hid ▸ hne

/-! ## The list -/

/-- The orchestrator reads the reply that the master writes. -/
theorem masterReply_read (command : Json) {id : String} (hid : trimSpace id = id)
    (handle : RawMessage → CommandReply) (send : String → Packet → Except String Packet) :
    ∃ p, Received.written ⟨commandPacket ⟨"", some command⟩ id, handle, send⟩ = some p ∧
      commandReply id p = .ok (handle (some command)) := by
  have hdispatch : dispatch (commandPacket ⟨"", some command⟩ id) =
      .command ⟨"", some command⟩ :=
    dispatch_of_decoded rfl
      (decodePayload_some rfl (OrchestratorCommand.unmarshal_marshal "" command))
      (Option.some_ne_none _)
  obtain ⟨p, hp, htype, hreplyTo, hpayload⟩ : ∃ p, replyPacket id (handle (some command)) = .ok p ∧
      p.type = packetOrchCommandReply ∧ p.replyTo = id ∧
      p.payload = some (handle (some command)).marshal := by
    rw [replyPacket_ok]
    exact ⟨_, rfl, rfl, hid, rfl⟩
  refine ⟨p, ?_, ?_⟩
  · unfold Received.written
    rw [hdispatch]
    dsimp only
    rw [if_pos rfl]
    show (replyPacket id (handle (some command))).toOption = some p
    rw [hp]
    rfl
  · unfold commandReply
    rw [if_neg (not_not.mpr htype), if_neg (not_not.mpr hreplyTo),
      decodePayload_some hpayload (CommandReply.unmarshal_marshal _)]

/-- **The list of machines is complete.**

1. For a list command, any connected nodes in any order, and whatever each
   of them answers, the master's reply is `"ok"` and is read back, over the
   connection and by the page, as an aggregate with exactly one entry for
   each node whose ID is not blank, made of that node's own outcome: its
   list, or an error without domains. Another order gives the same entries.
2. For the masters of a cluster in a store after any calls of
   `UpsertMaster`, in any order, and whatever they answer, the page lists
   their aggregates one after the other, and one error entry for each master
   without one. -/
theorem vm_list_complete {command : Json} {cmd : NodeCommand}
    (hcmd : NodeCommand.unmarshal command = some cmd)
    (haction : cmd.action = "libvirt.domains.list")
    {nodeIDs : List String} (hids : nodeIDs.Nodup) (send : String → Packet → Except String Packet)
    {id : String} (hid : trimSpace id = id) (ttl : Int) (allowed : Option AllowedClusters)
    (calls : List UpsertCall) {order : List MasterEntry}
    (horder : order.Perm ((newStore ttl allowed).upserts calls).values) (now : Int)
    (clusterID : String) (sendMaster : String → RawMessage → Except String CommandReply) :
    (∃ nodes p, AggregateOf nodeIDs (fun id => send id (listPacket command)) nodes ∧
      Received.written ⟨commandPacket ⟨"", some command⟩ id, handleMasterCommand nodeIDs send,
        send⟩ = some p ∧
      Aggregates (commandReply id p) nodes ∧
      (∀ masterID, masterDomains masterID (commandReply id p) = nodes) ∧
      ∀ nodeIDs', nodeIDs'.Perm nodeIDs → ∃ nodes', nodes'.Perm nodes ∧
        Aggregates (.ok (handleMasterCommand nodeIDs' send (some command))) nodes') ∧
    let masters := ((newStore ttl allowed).upserts calls).mastersForCluster order now clusterID
    fetchVMDomains sendMaster masters = (masters.flatMap fun m =>
      masterDomains m.id (sendMaster m.id (some listCommand))) ∧
    ∀ m ∈ masters,
      (∃ nodes, Aggregates (sendMaster m.id (some listCommand)) nodes ∧
        masterDomains m.id (sendMaster m.id (some listCommand)) = nodes) ∨
      ((∀ nodes, ¬ Aggregates (sendMaster m.id (some listCommand)) nodes) ∧
        ∃ error, masterDomains m.id (sendMaster m.id (some listCommand)) =
          [{ nodeID := m.id, error }]) := by
  have hread : ∀ nodeIDs, Aggregates (.ok (handleMasterCommand nodeIDs send (some command)))
      (listEntries command nodeIDs send) := by
    intro nodeIDs
    rw [handleMasterCommand_list hcmd haction]
    exact ⟨_, rfl, rfl, VMListAggregate.unmarshal_marshal _⟩
  constructor
  · obtain ⟨p, hp, hreply⟩ := masterReply_read command hid
      (handleMasterCommand nodeIDs send) send
    refine ⟨listEntries command nodeIDs send, p, aggregateOf_listEntries command hids send, hp, ?_,
      fun masterID => ?_, fun nodeIDs' hperm => ?_⟩
    · rw [hreply]
      exact hread nodeIDs
    · rw [hreply, handleMasterCommand_list hcmd haction]
      unfold masterDomains
      dsimp only
      rw [if_neg (not_not.mpr rfl), Option.bind_some, VMListAggregate.unmarshal_marshal]
    · exact ⟨_, listEntries_perm command hperm send, hread nodeIDs'⟩
  · have hinv := (upserts_inv (inv_newStore ttl allowed) calls).1
    exact ⟨fetchVMDomains_eq sendMaster (masters_id_ne hinv horder now clusterID),
      fun m _ => masterDomains_cases m.id _⟩

/-- Node `a` does not answer, node `b` has no machines. -/
def twoNodes : String → Packet → Except String Packet
  | "a", _ => .error "timeout waiting for reply"
  | _, _ => .ok
    { type := packetNodeCommandReply
      payload := some (CommandReply.marshal { status := "ok", output := some (.arr []) }) }

/-- The entries of `a` and `b`, and one for a master that is not connected. -/
theorem vm_list_complete_two :
    (∃ nodes p, AggregateOf ["a", "b"] (fun id => twoNodes id (listPacket listCommand)) nodes ∧
      Received.written ⟨commandPacket ⟨"", some listCommand⟩ "1",
        handleMasterCommand ["a", "b"] twoNodes, twoNodes⟩ = some p ∧
      ∀ masterID, masterDomains masterID (commandReply "1" p) = nodes) ∧
    fetchVMDomains (fun _ _ => .error "master not connected")
      (((newStore 0 none).upserts [⟨{}, 0, { id := "m", cluster := "c" }⟩]).mastersForCluster
        ((newStore 0 none).upserts [⟨{}, 0, { id := "m", cluster := "c" }⟩]).values 0 "c") =
      [{ nodeID := "m", error := "master not connected" }] := by
  obtain ⟨⟨nodes, p, hof, hp, -, hread, -⟩, hfetch, -⟩ := vm_list_complete
    (NodeCommand.unmarshal_marshal ⟨"libvirt.domains.list", none⟩) rfl (by decide : ["a", "b"].Nodup)
    twoNodes (by decide : trimSpace "1" = "1") 0 none [⟨{}, 0, { id := "m", cluster := "c" }⟩]
    (.refl _) 0 "c" fun _ _ => .error "master not connected"
  exact ⟨⟨nodes, p, hof, hp, hread⟩, hfetch.trans rfl⟩

end Centralisd
