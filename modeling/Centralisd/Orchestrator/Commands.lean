import Centralisd.Orchestrator.Server

/-!
# Centralisd — commands from the orchestrator

`sendCommandWait`, `SendCommandWait` and `SendClusterCommandWait` of
`src/orchestrator/tcp/server.go`, up to and after the `sendRequest` they
make: the packet they send, how they read the reply, and how a cluster
command picks its master.
-/

namespace Centralisd.Orchestrator

/-! ## Choosing a master -/

/-- `TargetScope`, an integer with two names. -/
inductive TargetScope where
  | targetAnyMaster
  | targetMasterByNode
  | unknown (scope : Int)
  deriving DecidableEq, Repr

structure TargetRequest where
  clusterID : String := ""
  nodeID : String := ""
  scope : TargetScope := .targetAnyMaster
  deriving DecidableEq, Repr

/-- What `SendClusterCommandWait` does to its request first. -/
def TargetRequest.trimmed (req : TargetRequest) : TargetRequest :=
  { req with clusterID := trimSpace req.clusterID, nodeID := trimSpace req.nodeID }

/-- The loop of `SendClusterCommandWait`, up to its call of
`sendCommandWait`. -/
def chooseMaster (req : TargetRequest) : List MasterEntry → Except String MasterEntry
  | [] =>
    if req.scope = .targetMasterByNode then .error "node not connected through any master"
    else .error "no eligible master connected"
  | master :: rest =>
    if master.id = "" then chooseMaster req rest
    else match req.scope with
      | .targetMasterByNode =>
        if req.nodeID = "" ∨ masterHasNode master req.nodeID = false then chooseMaster req rest
        else .ok master
      | .targetAnyMaster => .ok master
      | .unknown _ => .error "unknown target scope"

/-- `SendClusterCommandWait` on a trimmed request and the masters that
`MastersForCluster` returned for it, up to its call of `sendCommandWait`. -/
def selectMaster (req : TargetRequest) (masters : List MasterEntry) : Except String MasterEntry :=
  if req.clusterID = "" then .error "cluster id is empty"
  else if masters.length = 0 then .error "master not connected"
  else chooseMaster req masters

/-- By node, the chosen master is one of those offered and has the node. -/
theorem chooseMaster_ok {req : TargetRequest} {masters : List MasterEntry} {master : MasterEntry}
    (hscope : req.scope = .targetMasterByNode) (h : chooseMaster req masters = .ok master) :
    master ∈ masters ∧ req.nodeID ≠ "" ∧ masterHasNode master req.nodeID = true := by
  induction masters with
  | nil =>
    -- "node not connected through any master"
    rw [chooseMaster, if_pos hscope] at h
    cases h
  | cons m rest ih =>
    -- a master passed over leaves the search to the rest
    have hrest : chooseMaster req rest = .ok master → master ∈ m :: rest ∧ req.nodeID ≠ "" ∧
        masterHasNode master req.nodeID = true := by
      intro h'
      obtain ⟨hmem, hnode⟩ := ih h'
      exact ⟨List.mem_cons_of_mem m hmem, hnode⟩
    simp only [chooseMaster, hscope] at h
    split at h
    · exact hrest h
    · split at h
      · exact hrest h
      · next hhas =>
        cases h
        rw [not_or, Bool.not_eq_false] at hhas
        exact ⟨List.mem_cons_self, hhas⟩

theorem selectMaster_ok {req : TargetRequest} {masters : List MasterEntry} {master : MasterEntry}
    (hscope : req.scope = .targetMasterByNode) (h : selectMaster req masters = .ok master) :
    master ∈ masters ∧ req.nodeID ≠ "" ∧ masterHasNode master req.nodeID = true := by
  unfold selectMaster at h
  split at h
  · cases h
  · split at h
    · cases h
    · exact chooseMaster_ok hscope h

/-- A master with the node among those offered makes the search succeed. -/
theorem chooseMaster_exists {req : TargetRequest} {masters : List MasterEntry}
    {master : MasterEntry} (hscope : req.scope = .targetMasterByNode) (hnode : req.nodeID ≠ "")
    (hmem : master ∈ masters) (hid : master.id ≠ "")
    (hhas : masterHasNode master req.nodeID = true) :
    ∃ m, chooseMaster req masters = .ok m := by
  induction masters with
  | nil => exact absurd hmem List.not_mem_nil
  | cons m rest ih =>
    simp only [chooseMaster, hscope]
    by_cases hthis : m.id = "" ∨ masterHasNode m req.nodeID = false
    · -- this one is passed over, so it is not the given one
      have hne : master ≠ m := by
        rintro rfl
        rcases hthis with h | h
        · exact hid h
        · rw [hhas] at h
          cases h
      obtain ⟨m', hm'⟩ := ih ((List.mem_cons.mp hmem).resolve_left hne)
      rcases hthis with h | h
      · exact ⟨m', by rw [if_pos h, hm']⟩
      · have hskip : req.nodeID = "" ∨ masterHasNode m req.nodeID = false := .inr h
        exact ⟨m', by rw [if_pos hskip, hm', ite_self]⟩
    · rw [not_or] at hthis
      exact ⟨m, by rw [if_neg hthis.1, if_neg (not_or.mpr ⟨hnode, hthis.2⟩)]⟩

theorem selectMaster_exists {req : TargetRequest} {masters : List MasterEntry}
    {master : MasterEntry} (hcluster : req.clusterID ≠ "")
    (hscope : req.scope = .targetMasterByNode) (hnode : req.nodeID ≠ "")
    (hmem : master ∈ masters) (hid : master.id ≠ "")
    (hhas : masterHasNode master req.nodeID = true) :
    ∃ m, selectMaster req masters = .ok m := by
  have hlen : masters.length ≠ 0 := (List.length_pos_of_mem hmem).ne'
  rw [selectMaster, if_neg hcluster, if_neg hlen]
  exact chooseMaster_exists hscope hnode hmem hid hhas

/-! ## The packet and the reply -/

/-- The packet of a command, with the ID it is given. -/
def commandPacket (cmd : OrchestratorCommand) (id : String) : Packet :=
  { type := packetOrchCommand, id := id, payload := some cmd.marshal }

/-- How `sendCommandWait` reads the packet that `sendRequest` returned. -/
def commandReply (packetID : String) (respPacket : Packet) : Except String CommandReply :=
  if respPacket.type ≠ packetOrchCommandReply then .error "unexpected reply type"
  else if respPacket.replyTo ≠ packetID then .error "reply id mismatch"
  else match decodePayload CommandReply.unmarshal respPacket with
    | .error _ => .error "invalid reply payload"
    | .ok reply => .ok reply

/-- `NewPacket` builds the packet, up to its ID. -/
theorem commandPacket_eq (cmd : OrchestratorCommand) (id : String) :
    newPacket packetOrchCommand (some cmd.marshal) =
      .ok { commandPacket cmd id with id := "" } := by
  have htype : trimSpace packetOrchCommand ≠ "" := by decide
  exact newPacket_ok htype _

theorem commandReply_ok {packetID : String} {respPacket : Packet} {reply : CommandReply}
    (h : commandReply packetID respPacket = .ok reply) :
    respPacket.type = packetOrchCommandReply ∧ respPacket.replyTo = packetID ∧
      decodePayload CommandReply.unmarshal respPacket = .ok reply := by
  unfold commandReply at h
  split at h
  · -- "unexpected reply type"
    cases h
  · next htype =>
    split at h
    · -- "reply id mismatch"
      cases h
    · next hreply =>
      split at h
      · -- "invalid reply payload"
        cases h
      · next reply' hdec =>
        cases h
        exact ⟨not_not.mp htype, not_not.mp hreply, hdec⟩

end Centralisd.Orchestrator
