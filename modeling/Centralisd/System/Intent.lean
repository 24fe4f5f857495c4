import Centralisd.Master.Aggregate
import Centralisd.Slave.Footprint
import Centralisd.Web.Handler

/-!
# Centralisd — from a form to a change on a node

A command for a node goes through three programs: the web handler sends it,
the master puts it into packets for its nodes (`nodePackets`), and the slave
carries it out. Each of the three may be in any state and surrounded by
anything; what the master knows of its nodes is an input.

`changes_intended` puts together what each of them may do: whatever changes
on a node for a packet that goes back to a call of a web request goes back to
the command of the form posted with this request, as the page in its path
makes it, and is on the node in its path. So looking at pages changes
nothing, on any node, and neither do the listings of a request that posts.
-/

namespace Centralisd

open Runtime

/-! ## The packets of the master -/

namespace Master

/-- The packets that the loop of `handleMasterCommand` sends. -/
def listPackets (command : RawMessage) : List String → List (String × Packet)
  | [] => []
  | nodeID :: rest =>
    if trimSpace nodeID = "" then listPackets command rest
    else match nodeCommandPacket command with
      | .error _ => []
      | .ok cmdPacket => (nodeID, cmdPacket) :: listPackets command rest

/-- The calls of `sendCommandToNodeWait` that `readOrchestratorLoop` makes
for a packet. -/
def nodePackets (nodeIDs : List String) (packet : Packet) : List (String × Packet) :=
  match dispatch packet with
  | .respond => []
  | .ignore _ => []
  | .command cmd =>
    if cmd.nodeID = "" then
      match cmd.command.bind NodeCommand.unmarshal with
      | none => []
      | some nodeCmd =>
        if nodeCmd.action = "libvirt.domains.list" then listPackets cmd.command nodeIDs else []
    else match nodeCommandPacket cmd.command with
      | .error _ => []
      | .ok cmdPacket => [(cmd.nodeID, cmdPacket)]

section
variable {send send' : String → Packet → Except String Packet}

theorem listNodes_congr {command : RawMessage} {nodeIDs : List String}
    (h : ∀ call ∈ listPackets command nodeIDs, send call.1 call.2 = send' call.1 call.2) :
    listNodes command send nodeIDs = listNodes command send' nodeIDs := by
  induction nodeIDs with
  | nil => rfl
  | cons nodeID rest ih =>
    unfold listPackets at h
    unfold listNodes
    split at h
    · next hblank => rw [if_pos hblank, if_pos hblank, ih h]
    · next hblank =>
      rw [if_neg hblank, if_neg hblank]
      rw [nodeCommandPacket_ok] at h ⊢
      obtain ⟨hnode, hrest⟩ := List.forall_mem_cons.mp h
      dsimp only at hnode ⊢
      rw [hnode, ih hrest]

/-- What the master writes depends on these calls only. -/
theorem written_congr {nodeIDs : List String} {packet : Packet}
    (h : ∀ call ∈ nodePackets nodeIDs packet, send call.1 call.2 = send' call.1 call.2) :
    (⟨packet, handleMasterCommand nodeIDs send, send⟩ : Received).written =
      (⟨packet, handleMasterCommand nodeIDs send', send'⟩ : Received).written := by
  unfold nodePackets at h
  unfold Received.written
  cases hdispatch : dispatch packet with
  | respond => rfl
  | ignore text => rfl
  | command cmd =>
    rw [hdispatch] at h
    dsimp only at h ⊢
    by_cases hmaster : cmd.nodeID = ""
    · rw [if_pos hmaster] at h
      rw [if_pos hmaster, if_pos hmaster]
      have hreply : handleMasterCommand nodeIDs send cmd.command =
          handleMasterCommand nodeIDs send' cmd.command := by
        unfold handleMasterCommand
        cases hcmd : cmd.command.bind NodeCommand.unmarshal with
        | none => rfl
        | some nodeCmd =>
          rw [hcmd] at h
          dsimp only at h ⊢
          by_cases hlist : nodeCmd.action = "libvirt.domains.list"
          · rw [if_pos hlist] at h
            rw [if_pos hlist, if_pos hlist, listNodes_congr h]
          · rw [if_neg hlist, if_neg hlist]
      rw [hreply]
    · rw [if_neg hmaster] at h
      rw [if_neg hmaster, if_neg hmaster]
      rw [nodeCommandPacket_ok] at h ⊢
      have hnode := h _ List.mem_cons_self
      dsimp only at hnode ⊢
      rw [hnode]

end

theorem mem_listPackets {command : RawMessage} {nodeIDs : List String} {nodeID : String}
    {p : Packet} (h : (nodeID, p) ∈ listPackets command nodeIDs) :
    p = { type := packetNodeCommand, payload := command } := by
  induction nodeIDs with
  | nil => exact absurd h List.not_mem_nil
  | cons id rest ih =>
    unfold listPackets at h
    split at h
    · exact ih h
    · rw [nodeCommandPacket_ok] at h
      rcases List.mem_cons.mp h with heq | hrest
      · cases heq
        rfl
      · exact ih hrest

/-- What the master sends for a command has the command in it, and goes to
the node that is named; a command without a node is a listing. -/
theorem mem_nodePackets {nodeIDs : List String} {node nodeID id : String} {command : Json}
    {p : Packet}
    (h : (nodeID, p) ∈ nodePackets nodeIDs (Orchestrator.commandPacket ⟨node, some command⟩ id)) :
    p = { type := packetNodeCommand, payload := some command } ∧
      (node = "" → ∃ nodeCmd, NodeCommand.unmarshal command = some nodeCmd ∧
        nodeCmd.action = "libvirt.domains.list") ∧
      (node ≠ "" → nodeID = node) := by
  have hdispatch : dispatch (Orchestrator.commandPacket ⟨node, some command⟩ id) =
      .command ⟨node, some command⟩ :=
    dispatch_of_decoded rfl
      (decodePayload_some rfl (OrchestratorCommand.unmarshal_marshal node command)) nofun
  unfold nodePackets at h
  rw [hdispatch] at h
  dsimp only at h
  split at h
  · next hmaster =>
    rw [Option.bind_some] at h
    split at h
    · exact absurd h List.not_mem_nil
    · next nodeCmd hunmarshal =>
      split at h
      · next hlist =>
        exact ⟨mem_listPackets h, fun _ => ⟨nodeCmd, hunmarshal, hlist⟩, absurd hmaster⟩
      · exact absurd h List.not_mem_nil
  · next hnode =>
    rw [nodeCommandPacket_ok] at h
    cases List.mem_singleton.mp h
    exact ⟨rfl, fun hmaster => absurd hmaster hnode, fun _ => rfl⟩

end Master

/-! ## Commands of the web handler -/

namespace Web

open Orchestrator

/-- What `SendClusterCommandWait` and `SendMasterCommandWait` put into their
packet. -/
def Call.orchestratorCommand : Call → Option OrchestratorCommand
  | .clusterCommand target command => some ⟨target.trimmed.nodeID, command⟩
  | .masterCommand _ command => some ⟨"", command⟩
  | _ => none

theorem sends_of_orchestratorCommand {c : Call} {cmd : OrchestratorCommand}
    (h : c.orchestratorCommand = some cmd) : c.sends = true := by
  cases c with
  | clusterCommand target command => rfl
  | masterCommand masterID command => rfl
  | isKnownCluster id => cases h
  | nodesForCluster id => cases h
  | isClusterOnline id => cases h
  | mastersForCluster id => cases h
  | activeClusters => cases h

/-- The call is a listing. -/
def Call.Lists : Call → Prop
  | .clusterCommand _ command | .masterCommand _ command =>
    ∃ action ∈ listActions, command = some (NodeCommand.marshal ⟨action, none⟩)
  | _ => False

/-- The call, the node it is for and its command are those that the page in
the path makes of the posted form. -/
inductive Posted (r : Request) : Call → String → NodeCommand → Prop
  | form {id raw command : String} {sub : List String} {page : ActionPage} {form : Form}
      {params : Json} (hmethod : r.method = "POST")
      (hpath : pathParts r.path = some (id :: "nodes" :: raw :: sub))
      (hpage : formPage (sub.head?.getD "docker") = some page) (hform : r.form = some form)
      (hcommand : page.command (trimSpace (form "action")) form = .ok (command, params)) :
      Posted r
        (.clusterCommand (nodeTarget id (trimSpace raw))
          (some (NodeCommand.marshal ⟨page.sentAction command, some params⟩)))
        (trimSpace raw) ⟨page.sentAction command, some params⟩

/-- A posted command has parameters, and a listing has none. -/
theorem Posted.not_lists {r : Request} {c : Call} {nodeID : String} {node : NodeCommand}
    (h : Posted r c nodeID node) : ¬ c.Lists := by
  cases h with
  | form hmethod hpath hpage hform hcommand =>
    rintro ⟨action, -, heq⟩
    have hsame := congrArg NodeCommand.unmarshal (Option.some.inj heq)
    rw [NodeCommand.unmarshal_marshal, NodeCommand.unmarshal_marshal] at hsame
    cases hsame

/-- The call is the command of the posted form, which asks for the change on
this node. -/
def Intended (r : Request) (sent : Call) (moby : Slave.Moby) (nodeID : String)
    (before : List (Event Slave.Process.interface)) (change : Slave.Process.Call) : Prop :=
  ¬ sent.Lists ∧ ∃ node, Posted r sent nodeID node ∧
    Slave.Process.Asked moby node before (trimSpace node.action) change

end Web

/-! ## Changes -/

section
open Web Slave.Process

/-- No change is asked for by a listing. -/
theorem not_asked_listing {moby : Slave.Moby} {cmd : NodeCommand}
    {before : List (Event Slave.Process.interface)} {action : String} {change : Slave.Process.Call}
    (h : Asked moby cmd before action change) : action ∉ listActions := by
  cases h with
  | domainAction haction h hd =>
    have hactions : ∀ a ∈ domainActions, a.1 ∉ listActions := by decide
    exact hactions _ haction
  | _ => decide

/-- The command in a packet of the master, as the slave finds it. -/
theorem commandHandler_eq {node : NodeCommand} {id action : String} {cmd : NodeCommand}
    (h : Slave.commandHandler
      { type := packetNodeCommand, id := id, payload := some node.marshal } = .ok (action, cmd)) :
    cmd = node ∧ action = trimSpace node.action := by
  unfold Slave.commandHandler at h
  rw [decodePayload_some rfl (NodeCommand.unmarshal_marshal node)] at h
  dsimp only at h
  split at h
  · cases h
    exact ⟨rfl, rfl⟩
  · cases h

variable {ω σ : Type} {W : Host Web.interface ω} {H : Host Slave.Process.interface σ}

/-- A command that is sent for a request, in a packet of the master, and a
change that the slave is asked for by it. -/
theorem intended_of_sanctioned {r : Request} {sent : List (Event Web.interface)} {c : Web.Call}
    (hc : Sanctioned r sent c) {cmd : OrchestratorCommand} (hcmd : c.orchestratorCommand = some cmd)
    {packetID : String} {nodeIDs : List String} {nodeID : String} {p : Packet}
    (hp : (nodeID, p) ∈ Master.nodePackets nodeIDs (Orchestrator.commandPacket cmd packetID))
    {moby : Slave.Moby} {id : String} {before : List (Event Slave.Process.interface)}
    {change : Slave.Process.Call} (hchange : AskedBy moby (.ok { p with id := id }) before change) :
    Intended r c moby nodeID before change := by
  obtain ⟨_, action, found, hread, -, hhandler, hasked⟩ := hchange
  cases hread
  cases hc with
  | list htarget haction =>
    cases hcmd
    obtain ⟨rfl, -, -⟩ := Master.mem_nodePackets hp
    obtain ⟨rfl, rfl⟩ := commandHandler_eq hhandler
    have htrimmed : ∀ a ∈ listActions, trimSpace a ∈ listActions := by decide
    exact absurd (htrimmed _ haction) (not_asked_listing hasked)
  | master hpath hknown hmasters hmem hid =>
    cases hcmd
    obtain ⟨rfl, -, -⟩ := Master.mem_nodePackets hp
    obtain ⟨rfl, rfl⟩ := commandHandler_eq hhandler
    have htrimmed : trimSpace "libvirt.domains.list" ∈ listActions := by decide
    exact absurd htrimmed (not_asked_listing hasked)
  | @action cluster node raw command sub params page form htarget hmethod hpath hpage hform
      hcommand =>
    cases hcmd
    obtain ⟨rfl, hmaster, hnode⟩ := Master.mem_nodePackets hp
    obtain ⟨rfl, rfl⟩ := commandHandler_eq hhandler
    obtain ⟨_, _, hpath', hraw⟩ := htarget.path
    rw [hpath] at hpath'
    cases hpath'
    have htrim : (Web.nodeTarget cluster node).trimmed.nodeID = node := by
      show trimSpace node = node
      rw [hraw, trimSpace_idem]
    rw [htrim] at hmaster hnode
    subst hraw
    have hID : nodeID = trimSpace raw := by
      by_cases hempty : trimSpace raw = ""
      · -- a command without a node is a listing
        obtain ⟨nodeCmd, hunmarshal, hlist⟩ := hmaster hempty
        rw [NodeCommand.unmarshal_marshal] at hunmarshal
        cases hunmarshal
        have hlisting : trimSpace "libvirt.domains.list" ∈ listActions := by decide
        rw [← hlist] at hlisting
        exact absurd hlisting (not_asked_listing hasked)
      · exact hnode hempty
    subst hID
    have hposted := Posted.form hmethod hpath hpage hform hcommand
    exact ⟨hposted.not_lists, _, hposted, hasked⟩

/-- Whatever a slave changes for a packet of its master, for a call of a web
request: the call is no listing but the command of the posted form, as the
page in the request's path makes it, and this command asks for the change, on
the node in the path. -/
theorem changes_intended (r : Request) (s : ω) (e : Event Web.interface)
    (he : e ∈ (Effect.stateOf (serveHTTP W r { host := s, globals := () })).events)
    (cmd : OrchestratorCommand) (hcmd : e.call.orchestratorCommand = some cmd)
    (packetID : String) (nodeIDs : List String) (nodeID : String) (p : Packet)
    (hp : (nodeID, p) ∈ Master.nodePackets nodeIDs (Orchestrator.commandPacket cmd packetID))
    (moby : Slave.Moby) (start : σ) (master : String) (reads : List (Except String Packet))
    (step : Served) (hstep : step ∈ (connect H moby start master reads).served) (id : String)
    (hread : step.read = .ok { p with id := id })
    (before after : List (Event Slave.Process.interface)) (change : Event Slave.Process.interface)
    (hevents : step.events = before ++ change :: after) (hchanges : change.call.changes = true) :
    Intended r e.call moby nodeID before change.call := by
  obtain ⟨sent, hsanctioned⟩ := exists_sanctioned he (sends_of_orchestratorCommand hcmd)
  have hasked := connect_confined moby start master reads step hstep before change after hevents
    hchanges
  rw [hread] at hasked
  exact intended_of_sanctioned hsanctioned hcmd hp hasked

/-- The form that starts a domain. -/
def startRequest : Request where
  method := "POST"
  path := "/clusters/lab/nodes/n1/virtualization"
  form := some fun key =>
    match key with
    | "action" => "start"
    | "vm_name" => " web "
    | _ => ""

def startCommand : Json :=
  NodeCommand.marshal
    ⟨"libvirt.domain.start", some (LibvirtVMActionParams.marshal { name := "web" })⟩

def startReads : List (Except String Packet) :=
  [.ok { type := packetNodeCommand, id := "c1", payload := some startCommand }]

/-- What the request sends for the form. -/
def startCall : Web.Call := .clusterCommand (nodeTarget "lab" "n1") (some startCommand)

theorem startRequest_sends :
    ⟨startCall, .error "timeout waiting for response", true⟩ ∈ (Effect.stateOf
      (serveHTTP labStore startRequest { host := (), globals := () })).events :=
  .tail _ (.tail _ (.tail _ (.head _)))

theorem startReads_changes : ∃ step : Served,
    step ∈ (connect startHost ⟨some, fun _ => none⟩ () "10.0.0.1:49149" startReads).served ∧
    step.read = .ok { type := packetNodeCommand, id := "c1", payload := some startCommand } ∧
    ∃ before after, step.events =
      before ++ ⟨.domainOp ⟨"web"⟩ .create, .ok (), false⟩ :: after :=
  ⟨_, .head _, rfl, [foundBy ⟨"qemu:///system"⟩ "web" ⟨"web"⟩], _, rfl⟩

theorem changes_intended_start : ∃ before, Intended startRequest startCall ⟨some, fun _ => none⟩
    "n1" before (.domainOp ⟨"web"⟩ .create) := by
  obtain ⟨step, hstep, hread, before, after, hevents⟩ := startReads_changes
  exact ⟨before, changes_intended startRequest () _ startRequest_sends ⟨"n1", some startCommand⟩ rfl
    "c0" [] "n1" { type := packetNodeCommand, payload := some startCommand } (.head _) _ () _ _ step
    hstep "c1" hread before after _ hevents rfl⟩

end

end Centralisd
