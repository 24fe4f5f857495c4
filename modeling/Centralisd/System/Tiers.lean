import Centralisd.Master.OrchestratorLoop
import Centralisd.Master.Server
import Centralisd.Orchestrator.Commands
import Centralisd.Slave.Handlers
import Centralisd.System.Requests

/-!
# Centralisd — commands across the three tiers

The way of a command: `SendCommandWait` or `SendClusterCommandWait` on the
orchestrator, `readOrchestratorLoop` on a master, `handleNodeCommand` on a
slave, and the reply back. Any number of callers, masters, connections and
slaves take their steps in any order. `masterOf` says which master process
is at the other end of an orchestrator connection; each master has its own
node registry.

A stream is the list of the packets in flight, next first. A connection
that drops is one whose writes fail and whose readers take no further step;
timers fire at any step after the write.

The number of the command or request a packet was written for travels with
it, as does what a lookup found (`Lookup`, `Target`): the source has neither,
and no step depends on them.
-/

namespace Centralisd.Tiers

open Orchestrator (Masters MasterEntry ConnTable TargetRequest)

/-- Connections of either kind, each kind with its own numbers. -/
abbrev ConnID := Nat

-- ---------------------------------------------------------------------------
-- States
-- ---------------------------------------------------------------------------

/-- How a command got its master. -/
inductive Target where
  /-- named by the caller of `SendCommandWait` -/
  | named
  /-- chosen by `SendClusterCommandWait` for a request, from the store as it
  was at an instant -/
  | chosen (req : TargetRequest) (store : Masters) (now : Int) (master : MasterEntry)

/-- The arguments of `sendCommandWait`. -/
structure Issue where
  target : Target
  masterID : String
  cmd : OrchestratorCommand

/-- Where the caller of a command is. -/
inductive Stage where
  /-- at the lookup in `masterConns` -/
  | selected (i : Issue)
  /-- found in the table, about to call `sendRequest` -/
  | found (i : Issue) (conns : ConnTable) (c : ConnID)
  /-- in `sendRequest` -/
  | requesting (i : Issue) (conns : ConnTable)
  | failed (err : String)

/-- The lookup that a request to a node goes back to: the command it is
for, the master and its registry at the lookup. -/
structure Lookup where
  cause : Option Nat
  master : Nat
  nodeID : String
  nodes : Master.Registry

/-- A packet a master sends to a node with `sendRequest`. -/
structure NodeRequest where
  packet : Packet
  /-- `none` for a heartbeat -/
  lookup : Option Lookup

/-- The command a request is for. -/
def NodeRequest.cause (r : NodeRequest) : Option Nat := r.lookup.bind Lookup.cause

/-- Where `readOrchestratorLoop` is. -/
inductive Loop where
  | reading
  /-- at `respCh <- packet` -/
  | offering
  /-- at the lookup of `sendCommandToNodeWait` -/
  | forwarding (cause : Option Nat) (packetID : String) (cmd : OrchestratorCommand)
  /-- found in the registry, about to call `sendRequest` -/
  | found (cause : Option Nat) (packetID nodeID : String) (cmdPacket : Packet)
      (nodes : Master.Registry) (n : ConnID)
  /-- in `sendRequest`, as request number `j` -/
  | awaiting (packetID nodeID : String) (j : Nat)
  /-- in `handleMasterCommand` -/
  | mastering (packetID : String)
  /-- at `writer.writePacket(reply)` -/
  | replying (reply : Packet)

/-- Where the loop of a slave's `Connect` is. -/
inductive Slave where
  | reading
  /-- in the packet's handler -/
  | handling (h : Slave.PacketHandler) (j : Nat) (packet : Packet)
  /-- in the command's handler -/
  | running (j : Nat) (packetID : String)
  /-- at the write of the reply -/
  | replying (reply : Packet)
  | ended

/-- A call of an entry of `commandHandlers`. -/
structure Invocation where
  conn : ConnID
  /-- the request the command came with -/
  request : Nat
  action : String
  cmd : NodeCommand

structure State where
  /-- the orchestrator's store and connection table -/
  masters : Masters
  masterConns : ConnTable
  /-- the registry of each master -/
  nodes : Nat → Master.Registry
  commands : Nat → Option Stage
  /-- `sendRequest` and `resolveReply` of all `masterConn`s -/
  orch : Requests
  /-- the writes made for commands -/
  writes : List (Nat × ConnID)
  /-- in flight to a master -/
  down : ConnID → List (Packet × Option Nat)
  /-- in flight to the orchestrator -/
  up : ConnID → List Packet
  loop : ConnID → Loop
  /-- the requests to nodes, by number -/
  requests : List NodeRequest
  /-- `sendRequest` and `resolveReply` of all `nodeConn`s -/
  node : Requests
  /-- in flight to a slave -/
  nodeDown : ConnID → List (Packet × Nat)
  /-- in flight from a slave -/
  nodeUp : ConnID → List Packet
  slave : ConnID → Slave
  invocations : List Invocation
  /-- what the command handlers returned, by request -/
  results : List (Nat × Except String RawMessage)

def init : State where
  masters := ∅
  masterConns := KeyedTable.empty
  nodes := fun _ => KeyedTable.empty
  commands := fun _ => none
  orch := PendingTable.init
  writes := []
  down := fun _ => []
  up := fun _ => []
  loop := fun _ => .reading
  requests := []
  node := PendingTable.init
  nodeDown := fun _ => []
  nodeUp := fun _ => []
  slave := fun _ => .reading
  invocations := []
  results := []

inductive Action where
  /-- registrations, heartbeats and the clock change the tables -/
  | tables (masters : Masters) (masterConns : ConnTable) (nodes : Nat → Master.Registry)
  | sendCommandWait (k : Nat) (masterID nodeID : String) (command : RawMessage)
  /-- `masters` is what `MastersForCluster` returns, in some order -/
  | sendClusterCommandWait (k : Nat) (clusterID nodeID : String) (command : RawMessage)
      (now : Int) (masters : List MasterEntry)
  | lookupMaster (k : Nat)
  /-- the command's `sendRequest` begins, under a new ID -/
  | request (k : Nat) (random : Bytes)
  | write (k : Nat) (ok : Bool)
  /-- any other step of a command's `sendRequest` or of `resolveReply` -/
  | orch (b : PendingTable.Action ConnID String Packet)
  /-- `handleConn` reads a packet -/
  | orchRead (c : ConnID)
  /-- `handleConn` answers a packet that is no awaited reply -/
  | answer (c : ConnID) (error : Option String)
  /-- `connectLoop` writes a register or heartbeat packet -/
  | update (c : ConnID) (mi : MasterInfo) (register : Bool)
  | loopRead (c : ConnID)
  /-- `connectLoop` receives from `respCh` -/
  | handOver (c : ConnID)
  | lookupNode (c : ConnID)
  /-- the forwarded command's `sendRequest` begins, under a new ID -/
  | forward (c : ConnID) (random : Bytes)
  /-- a heartbeat's `sendRequest` begins, under a new ID -/
  | heartbeat (n : ConnID) (random : Bytes)
  | nodeWrite (j : Nat) (ok : Bool)
  /-- any other step of a request to a node or of its `resolveReply` -/
  | node (b : PendingTable.Action ConnID String Packet)
  /-- the `readLoop` of a node reads a packet -/
  | nodeRead (n : ConnID)
  /-- `sendCommandToNodeWait` returns; `err` is the text of a write error -/
  | nodeReturn (c : ConnID) (err : String)
  | masterReply (c : ConnID) (reply : CommandReply)
  | loopReply (c : ConnID) (ok : Bool)
  | slaveRead (n : ConnID)
  /-- the packet's handler runs up to the command's handler or the reply -/
  | slaveHandle (n : ConnID) (heartbeat : Json)
  /-- the command's handler returns -/
  | handlerReturn (n : ConnID) (result : Except String RawMessage)
  | slaveReply (n : ConnID) (ok : Bool)

-- ---------------------------------------------------------------------------
-- Steps
-- ---------------------------------------------------------------------------

def State.setCommand (s : State) (k : Nat) (stage : Stage) : State :=
  { s with commands := Function.update s.commands k (some stage) }

def State.setLoop (s : State) (c : ConnID) (l : Loop) : State :=
  { s with loop := Function.update s.loop c l }

def State.setSlave (s : State) (n : ConnID) (l : Slave) : State :=
  { s with slave := Function.update s.slave n l }

/-- `SendCommandWait`, up to `sendCommandWait`. -/
def named (masterID nodeID : String) (command : RawMessage) : Stage :=
  if nodeID = "" then .failed "node id is empty"
  else .selected ⟨.named, masterID, ⟨nodeID, command⟩⟩

/-- `SendClusterCommandWait` by node, up to `sendCommandWait`. -/
def chosen (store : Masters) (clusterID nodeID : String) (command : RawMessage) (now : Int)
    (masters : List MasterEntry) : Stage :=
  let req : TargetRequest := ⟨clusterID, nodeID, .targetMasterByNode⟩
  match Orchestrator.selectMaster req.trimmed masters with
  | .error err => .failed err
  | .ok master =>
    .selected ⟨.chosen req store now master, master.id, ⟨req.trimmed.nodeID, command⟩⟩

/-- The master writes its reply, or drops it if it cannot be built. -/
def replying : Except String Packet → Loop
  | .ok reply => .replying reply
  | .error _ => .reading

/-- `readOrchestratorLoop` on the packet it has read. -/
def onPacket (packet : Packet) (cause : Option Nat) : Loop :=
  match Master.dispatch packet with
  | .respond => .offering
  | .ignore _ => .reading
  | .command cmd =>
    if cmd.nodeID = "" then .mastering packet.id else .forwarding cause packet.id cmd

/-- From the command to the lookup's result. -/
def onForwarding (nodes : Master.Registry) (cause : Option Nat) (packetID : String)
    (cmd : OrchestratorCommand) : Loop :=
  match Master.nodeCommandPacket cmd.command with
  | .error _ => .reading
  | .ok cmdPacket => match Master.lookupNode nodes cmd.nodeID with
    | .error err => replying (Master.replyPacket packetID (Master.nodeReply cmd.nodeID (.error err)))
    | .ok n => .found cause packetID cmd.nodeID cmdPacket nodes n

/-- What `sendCommandToNodeWait` returns when its request has ended. -/
def nodeResult (err : String) : PendingTable.Outcome ConnID Packet → Except String Packet
  | .reply t => .ok t.packet
  | .writeError => .error err
  | .timeout => .error "timeout waiting for reply"

/-- The steps that are taken by `sendRequest` and `resolveReply` alone. -/
def inner : PendingTable.Action ConnID String Packet → Bool
  | .start .. => false
  | .write .. => false
  | .read .. => false
  | _ => true

/-- `sendRequest` of a node begins, as the next request. -/
def State.startRequest (s : State) (n : ConnID) (random : Bytes) (r : NodeRequest) : Option State :=
  (Requests.step .nodeConn s.node (.start s.requests.length n (newID random))).map fun node =>
    { s with node := node, requests := s.requests ++ [r] }

/-- The answer of `handleConn`. -/
def answerPacket : Option String → Packet
  | none => Orchestrator.okPacket
  | some error => newError error

def onOrchestrator (ttl : Int) (s : State) : Action → Option State
  | .sendCommandWait k masterID nodeID command => match s.commands k with
    | none => some (s.setCommand k (named masterID nodeID command))
    | some _ => none
  | .sendClusterCommandWait k clusterID nodeID command now masters => match s.commands k with
    | none =>
      -- the map's iteration order is arbitrary
      if masters.Perm (Orchestrator.mastersForCluster s.masters ttl now (trimSpace clusterID)) then
        some (s.setCommand k (chosen s.masters clusterID nodeID command now masters))
      else none
    | some _ => none
  | .lookupMaster k => match s.commands k with
    | some (.selected i) => match Orchestrator.lookupMaster s.masterConns i.masterID with
      | .error err => some (s.setCommand k (.failed err))
      | .ok c => some (s.setCommand k (.found i s.masterConns c))
    | _ => none
  | .request k random => match s.commands k with
    | some (.found i conns c) =>
      (Requests.step .masterConn s.orch (.start k c (newID random))).map fun orch =>
        { s.setCommand k (.requesting i conns) with orch := orch }
    | _ => none
  | .write k ok => match s.commands k, s.orch.calls k with
    | some (.requesting i _), some call =>
      (Requests.step .masterConn s.orch (.write k ok)).map fun orch => { s with
        orch := orch
        writes := s.writes ++ [(k, call.conn)]
        down := if ok then Function.update s.down call.conn
            (s.down call.conn ++ [(Orchestrator.commandPacket i.cmd call.key, some k)])
          else s.down }
    | _, _ => none
  | .orch b =>
    if inner b then (Requests.step .masterConn s.orch b).map fun orch => { s with orch := orch }
    else none
  | .orchRead c => match s.up c with
    | packet :: rest => (Requests.step .masterConn s.orch (.read c packet)).map fun orch =>
      { s with orch := orch, up := Function.update s.up c rest }
    | [] => none
  | .answer c error => some { s with
      down := Function.update s.down c (s.down c ++ [(answerPacket error, none)]) }
  | _ => none

def onMaster (masterOf : ConnID → Nat) (s : State) : Action → Option State
  | .update c mi register =>
    match if register then Master.registerPacket mi else Master.heartbeatPacket mi with
    | .ok packet => some { s with up := Function.update s.up c (s.up c ++ [packet]) }
    | .error _ => none
  | .loopRead c => match s.loop c, s.down c with
    | .reading, (packet, cause) :: rest =>
      some { s.setLoop c (onPacket packet cause) with down := Function.update s.down c rest }
    | _, _ => none
  | .handOver c => match s.loop c with
    | .offering => some (s.setLoop c .reading)
    | _ => none
  | .lookupNode c => match s.loop c with
    | .forwarding cause packetID cmd =>
      some (s.setLoop c (onForwarding (s.nodes (masterOf c)) cause packetID cmd))
    | _ => none
  | .forward c random => match s.loop c with
    | .found cause packetID nodeID cmdPacket nodes n =>
      (s.startRequest n random ⟨cmdPacket, some ⟨cause, masterOf c, nodeID, nodes⟩⟩).map fun t =>
        t.setLoop c (.awaiting packetID nodeID s.requests.length)
    | _ => none
  | .heartbeat n random => match newPacket packetHeartbeat none with
    | .ok packet => s.startRequest n random ⟨packet, none⟩
    | .error _ => none
  | .nodeWrite j ok => match s.requests[j]?, s.node.calls j with
    | some r, some call =>
      (Requests.step .nodeConn s.node (.write j ok)).map fun node => { s with
        node := node
        nodeDown := if ok then Function.update s.nodeDown call.conn
            (s.nodeDown call.conn ++ [({ r.packet with id := call.key }, j)])
          else s.nodeDown }
    | _, _ => none
  | .node b =>
    if inner b then (Requests.step .nodeConn s.node b).map fun node => { s with node := node }
    else none
  | .nodeRead n => match s.nodeUp n with
    | packet :: rest => (Requests.step .nodeConn s.node (.read n packet)).map fun node =>
      { s with node := node, nodeUp := Function.update s.nodeUp n rest }
    | [] => none
  | .nodeReturn c err => match s.loop c with
    | .awaiting packetID nodeID j => match s.node.calls j with
      | some ⟨_, _, .returned out⟩ =>
        some (s.setLoop c (replying
          (Master.replyPacket packetID (Master.nodeReply nodeID (nodeResult err out)))))
      | _ => none
    | _ => none
  | .masterReply c reply => match s.loop c with
    | .mastering packetID => some (s.setLoop c (replying (Master.replyPacket packetID reply)))
    | _ => none
  | .loopReply c ok => match s.loop c with
    | .replying reply => some { s.setLoop c .reading with
        up := if ok then Function.update s.up c (s.up c ++ [reply]) else s.up }
    | _ => none
  | _ => none

/-- A handler that cannot build its reply returns the error. -/
def slaveReplying : Except String Packet → Slave
  | .ok reply => .replying reply
  | .error _ => .ended

def onSlave (s : State) : Action → Option State
  | .slaveRead n => match s.slave n, s.nodeDown n with
    | .reading, (packet, j) :: rest =>
      some { s.setSlave n (match Slave.packetHandlers packet.type with
          | none => .reading
          | some h => .handling h j packet) with
        nodeDown := Function.update s.nodeDown n rest }
    | _, _ => none
  | .slaveHandle n heartbeat => match s.slave n with
    | .handling .handleHeartbeat _ packet => some (s.setSlave n (slaveReplying
        (newReply packetHeartbeatReply packet.id (some heartbeat))))
    | .handling .handleNodeCommand j packet => match Slave.commandHandler packet with
      | .error reply =>
        some (s.setSlave n (slaveReplying (Slave.writeCommandReply packet.id reply)))
      | .ok (action, cmd) => some { s.setSlave n (.running j packet.id) with
          invocations := s.invocations ++ [⟨n, j, action, cmd⟩] }
    | _ => none
  | .handlerReturn n result => match s.slave n with
    | .running j packetID => some
      { s.setSlave n (slaveReplying
          (Slave.writeCommandReply packetID (Slave.handlerReply result))) with
        results := s.results ++ [(j, result)] }
    | _ => none
  | .slaveReply n ok => match s.slave n with
    | .replying reply => some { s.setSlave n (if ok then .reading else .ended) with
        nodeUp := if ok then Function.update s.nodeUp n (s.nodeUp n ++ [reply]) else s.nodeUp }
    | _ => none
  | _ => none

def step (ttl : Int) (masterOf : ConnID → Nat) (s : State) (a : Action) : Option State :=
  match a with
  | .tables masters masterConns nodes =>
    some { s with masters := masters, masterConns := masterConns, nodes := nodes }
  | .slaveRead _ | .slaveHandle _ _ | .handlerReturn _ _ | .slaveReply _ _ => onSlave s a
  | .sendCommandWait .. | .sendClusterCommandWait .. | .lookupMaster _ | .request _ _
  | .write _ _ | .orch _ | .orchRead _ | .answer _ _ => onOrchestrator ttl s a
  | _ => onMaster masterOf s a

/-- `NewID` does not repeat itself among the requests of one tier. -/
def FreshIDs (s : State) : Action → Prop
  | .request k random => ∀ c, PendingTable.FreshKeys s.orch (.start k c (newID random))
  | .forward _ random => ∀ n, PendingTable.FreshKeys s.node (.start s.requests.length n (newID random))
  | .heartbeat n random => PendingTable.FreshKeys s.node (.start s.requests.length n (newID random))
  | _ => True

-- ---------------------------------------------------------------------------
-- What a step can do
-- ---------------------------------------------------------------------------

/-- What is known of a command when its master is picked: it has a node,
and for a cluster the master is online there and reports the node. -/
structure Issue.OK (ttl : Int) (i : Issue) : Prop where
  nodeID : i.cmd.nodeID ≠ ""
  chosen : ∀ req store now master, i.target = .chosen req store now master →
    master ∈ Orchestrator.mastersForCluster store ttl now (trimSpace req.clusterID) ∧
      Orchestrator.masterHasNode master (trimSpace req.nodeID) = true ∧
      i.masterID = master.id ∧ i.cmd.nodeID = trimSpace req.nodeID

/-- Everything a step can do, the actions that share an effect in one
case. -/
inductive Step (ttl : Int) (masterOf : ConnID → Nat) (s : State) : Action → State → Prop
  | tables {masters masterConns nodes} :
      Step ttl masterOf s (.tables masters masterConns nodes)
        { s with masters := masters, masterConns := masterConns, nodes := nodes }
  | refused {a k err} (hk : ∀ i conns, s.commands k ≠ some (.requesting i conns)) :
      Step ttl masterOf s a (s.setCommand k (.failed err))
  | selected {a k i} (hk : s.commands k = none) (hi : i.OK ttl) :
      Step ttl masterOf s a (s.setCommand k (.selected i))
  | reached {k i c} (hk : s.commands k = some (.selected i))
      (hc : Orchestrator.lookupMaster s.masterConns i.masterID = .ok c) :
      Step ttl masterOf s (.lookupMaster k) (s.setCommand k (.found i s.masterConns c))
  | request {k random i conns c orch} (hk : s.commands k = some (.found i conns c))
      (ho : Requests.step .masterConn s.orch (.start k c (newID random)) = some orch) :
      Step ttl masterOf s (.request k random)
        { s.setCommand k (.requesting i conns) with orch := orch }
  | write {k ok i conns call orch} (hk : s.commands k = some (.requesting i conns))
      (hcall : s.orch.calls k = some call)
      (ho : Requests.step .masterConn s.orch (.write k ok) = some orch) :
      Step ttl masterOf s (.write k ok) { s with
        orch := orch
        writes := s.writes ++ [(k, call.conn)]
        down := if ok then Function.update s.down call.conn
            (s.down call.conn ++ [(Orchestrator.commandPacket i.cmd call.key, some k)])
          else s.down }
  | orch {b orch} (hb : inner b = true) (ho : Requests.step .masterConn s.orch b = some orch) :
      Step ttl masterOf s (.orch b) { s with orch := orch }
  | orchRead {c packet rest orch} (hup : s.up c = packet :: rest)
      (ho : Requests.step .masterConn s.orch (.read c packet) = some orch) :
      Step ttl masterOf s (.orchRead c)
        { s with orch := orch, up := Function.update s.up c rest }
  | answer {c error} : Step ttl masterOf s (.answer c error) { s with
      down := Function.update s.down c (s.down c ++ [(answerPacket error, none)]) }
  | update {c mi register packet} (hp : packet.replyTo = "") :
      Step ttl masterOf s (.update c mi register)
        { s with up := Function.update s.up c (s.up c ++ [packet]) }
  | loopRead {c packet cause rest} (hloop : s.loop c = .reading)
      (hdown : s.down c = (packet, cause) :: rest) :
      Step ttl masterOf s (.loopRead c)
        { s.setLoop c (onPacket packet cause) with down := Function.update s.down c rest }
  | handOver {c} (hloop : s.loop c = .offering) :
      Step ttl masterOf s (.handOver c) (s.setLoop c .reading)
  | lookupNode {c cause packetID cmd} (hloop : s.loop c = .forwarding cause packetID cmd) :
      Step ttl masterOf s (.lookupNode c)
        (s.setLoop c (onForwarding (s.nodes (masterOf c)) cause packetID cmd))
  | forward {c random cause packetID nodeID cmdPacket nodes n node}
      (hloop : s.loop c = .found cause packetID nodeID cmdPacket nodes n)
      (hn : Requests.step .nodeConn s.node (.start s.requests.length n (newID random)) =
        some node) :
      Step ttl masterOf s (.forward c random) { s with
        node := node
        requests := s.requests ++ [⟨cmdPacket, some ⟨cause, masterOf c, nodeID, nodes⟩⟩]
        loop := Function.update s.loop c (.awaiting packetID nodeID s.requests.length) }
  | heartbeat {n random packet node} (hp : packet.type = packetHeartbeat)
      (hn : Requests.step .nodeConn s.node (.start s.requests.length n (newID random)) =
        some node) :
      Step ttl masterOf s (.heartbeat n random)
        { s with node := node, requests := s.requests ++ [⟨packet, none⟩] }
  | nodeWrite {j ok r call node} (hr : s.requests[j]? = some r)
      (hcall : s.node.calls j = some call)
      (hn : Requests.step .nodeConn s.node (.write j ok) = some node) :
      Step ttl masterOf s (.nodeWrite j ok) { s with
        node := node
        nodeDown := if ok then Function.update s.nodeDown call.conn
            (s.nodeDown call.conn ++ [({ r.packet with id := call.key }, j)])
          else s.nodeDown }
  | node {b node} (hb : inner b = true) (hn : Requests.step .nodeConn s.node b = some node) :
      Step ttl masterOf s (.node b) { s with node := node }
  | nodeRead {n packet rest node} (hup : s.nodeUp n = packet :: rest)
      (hn : Requests.step .nodeConn s.node (.read n packet) = some node) :
      Step ttl masterOf s (.nodeRead n)
        { s with node := node, nodeUp := Function.update s.nodeUp n rest }
  | nodeReturn {c err packetID nodeID j call out} (hloop : s.loop c = .awaiting packetID nodeID j)
      (hcall : s.node.calls j = some call) (hpc : call.pc = .returned out) :
      Step ttl masterOf s (.nodeReturn c err) (s.setLoop c (replying
        (Master.replyPacket packetID (Master.nodeReply nodeID (nodeResult err out)))))
  | masterReply {c reply packetID} (hloop : s.loop c = .mastering packetID) :
      Step ttl masterOf s (.masterReply c reply)
        (s.setLoop c (replying (Master.replyPacket packetID reply)))
  | loopReply {c ok reply} (hloop : s.loop c = .replying reply) :
      Step ttl masterOf s (.loopReply c ok) { s.setLoop c .reading with
        up := if ok then Function.update s.up c (s.up c ++ [reply]) else s.up }
  | slaveRead {n packet j rest} (hslave : s.slave n = .reading)
      (hdown : s.nodeDown n = (packet, j) :: rest) :
      Step ttl masterOf s (.slaveRead n)
        { s.setSlave n (match Slave.packetHandlers packet.type with
            | none => .reading
            | some h => .handling h j packet) with
          nodeDown := Function.update s.nodeDown n rest }
  | slaveHeartbeat {n heartbeat j packet} (hslave : s.slave n = .handling .handleHeartbeat j packet) :
      Step ttl masterOf s (.slaveHandle n heartbeat) (s.setSlave n (slaveReplying
        (newReply packetHeartbeatReply packet.id (some heartbeat))))
  | slaveRefused {n heartbeat j packet reply}
      (hslave : s.slave n = .handling .handleNodeCommand j packet)
      (hreply : Slave.commandHandler packet = .error reply) :
      Step ttl masterOf s (.slaveHandle n heartbeat)
        (s.setSlave n (slaveReplying (Slave.writeCommandReply packet.id reply)))
  | invoke {n heartbeat j packet action cmd}
      (hslave : s.slave n = .handling .handleNodeCommand j packet)
      (hcmd : Slave.commandHandler packet = .ok (action, cmd)) :
      Step ttl masterOf s (.slaveHandle n heartbeat) { s.setSlave n (.running j packet.id) with
        invocations := s.invocations ++ [⟨n, j, action, cmd⟩] }
  | handlerReturn {n result j packetID} (hslave : s.slave n = .running j packetID) :
      Step ttl masterOf s (.handlerReturn n result)
        { s.setSlave n (slaveReplying
            (Slave.writeCommandReply packetID (Slave.handlerReply result))) with
          results := s.results ++ [(j, result)] }
  | slaveReply {n ok reply} (hslave : s.slave n = .replying reply) :
      Step ttl masterOf s (.slaveReply n ok) { s.setSlave n (if ok then .reading else .ended) with
        nodeUp := if ok then Function.update s.nodeUp n (s.nodeUp n ++ [reply]) else s.nodeUp }

variable {ttl : Int} {masterOf : ConnID → Nat}

theorem named_cases (ttl : Int) (masterID nodeID : String) (command : RawMessage) :
    (∃ err, named masterID nodeID command = .failed err) ∨
      ∃ i : Issue, named masterID nodeID command = .selected i ∧ i.OK ttl := by
  unfold named
  split
  · exact .inl ⟨_, rfl⟩
  · next hnode => exact .inr ⟨_, rfl, hnode, fun _ _ _ _ h => by cases h⟩

theorem chosen_cases {store : Masters} {clusterID nodeID : String} (command : RawMessage)
    {now : Int} {masters : List MasterEntry}
    (hperm : masters.Perm (Orchestrator.mastersForCluster store ttl now (trimSpace clusterID))) :
    (∃ err, chosen store clusterID nodeID command now masters = .failed err) ∨
      ∃ i : Issue, chosen store clusterID nodeID command now masters = .selected i ∧ i.OK ttl := by
  simp only [chosen]
  split
  · exact .inl ⟨_, rfl⟩
  · next master hmaster =>
    -- the chosen master was offered by the store and reports the node
    obtain ⟨hmem, hnode, hhas⟩ := Orchestrator.selectMaster_ok rfl hmaster
    refine .inr ⟨_, rfl, hnode, ?_⟩
    rintro req store' now' master' htarget
    cases htarget
    exact ⟨hperm.subset hmem, hhas, rfl, rfl⟩

theorem onOrchestrator_step {s t : State} {a : Action} (h : onOrchestrator ttl s a = some t) :
    Step ttl masterOf s a t := by
  cases a with
  | sendCommandWait k masterID nodeID command =>
    simp only [onOrchestrator] at h
    split at h
    · next hk =>
      cases h
      rcases named_cases ttl masterID nodeID command with ⟨err, he⟩ | ⟨i, he, hi⟩
      · exact he ▸ .refused (by simp [hk])
      · exact he ▸ .selected hk hi
    · cases h
  | sendClusterCommandWait k clusterID nodeID command now masters =>
    simp only [onOrchestrator] at h
    split at h
    · next hk =>
      split at h
      · next hperm =>
        cases h
        rcases chosen_cases command hperm with ⟨err, he⟩ | ⟨i, he, hi⟩
        · exact he ▸ .refused (by simp [hk])
        · exact he ▸ .selected hk hi
      · cases h
    · cases h
  | lookupMaster k =>
    simp only [onOrchestrator] at h
    split at h
    · next i hk =>
      split at h
      · -- "master id is empty" or "master not connected"
        cases h
        exact .refused (by simp [hk])
      · next c hc =>
        cases h
        exact .reached hk hc
    · cases h
  | request k random =>
    simp only [onOrchestrator] at h
    split at h
    · next i conns c hk =>
      obtain ⟨orch, ho, rfl⟩ := Option.map_eq_some_iff.mp h
      exact .request hk ho
    · cases h
  | write k ok =>
    simp only [onOrchestrator] at h
    split at h
    · next i conns call hk hcall =>
      obtain ⟨orch, ho, rfl⟩ := Option.map_eq_some_iff.mp h
      exact .write hk hcall ho
    · cases h
  | orch b =>
    simp only [onOrchestrator] at h
    split at h
    · next hb =>
      obtain ⟨orch, ho, rfl⟩ := Option.map_eq_some_iff.mp h
      exact .orch hb ho
    · cases h
  | orchRead c =>
    simp only [onOrchestrator] at h
    split at h
    · next packet rest hup =>
      obtain ⟨orch, ho, rfl⟩ := Option.map_eq_some_iff.mp h
      exact .orchRead hup ho
    · cases h
  | answer c error =>
    cases h
    exact .answer
  | _ => cases h

theorem onMaster_step {s t : State} {a : Action} (h : onMaster masterOf s a = some t) :
    Step ttl masterOf s a t := by
  cases a with
  | update c mi register =>
    simp only [onMaster] at h
    split at h
    · next packet hp =>
      cases h
      refine .update ?_
      -- both packets are made by `NewPacket`
      cases register with
      | true =>
        rw [if_pos rfl, Master.registerPacket_ok, Except.ok.injEq] at hp
        rw [← hp]
      | false =>
        rw [if_neg Bool.false_ne_true, Master.heartbeatPacket_ok, Except.ok.injEq] at hp
        rw [← hp]
    · cases h
  | loopRead c =>
    simp only [onMaster] at h
    split at h
    · next packet cause rest hloop hdown =>
      cases h
      exact .loopRead hloop hdown
    · cases h
  | handOver c =>
    simp only [onMaster] at h
    split at h
    · next hloop =>
      cases h
      exact .handOver hloop
    · cases h
  | lookupNode c =>
    simp only [onMaster] at h
    split at h
    · next cause packetID cmd hloop =>
      cases h
      exact .lookupNode hloop
    · cases h
  | forward c random =>
    simp only [onMaster] at h
    split at h
    · next cause packetID nodeID cmdPacket nodes n hloop =>
      obtain ⟨u, hu, rfl⟩ := Option.map_eq_some_iff.mp h
      obtain ⟨node, hn, rfl⟩ := Option.map_eq_some_iff.mp hu
      exact .forward hloop hn
    · cases h
  | heartbeat n random =>
    simp only [onMaster] at h
    split at h
    · next packet hp =>
      obtain ⟨node, hn, rfl⟩ := Option.map_eq_some_iff.mp h
      -- so a heartbeat is never taken for a command
      have htype : trimSpace packetHeartbeat ≠ "" := by decide
      rw [newPacket_ok htype, Except.ok.injEq] at hp
      exact .heartbeat (by rw [← hp]) hn
    · cases h
  | nodeWrite j ok =>
    simp only [onMaster] at h
    split at h
    · next r call hr hcall =>
      obtain ⟨node, hn, rfl⟩ := Option.map_eq_some_iff.mp h
      exact .nodeWrite hr hcall hn
    · cases h
  | node b =>
    simp only [onMaster] at h
    split at h
    · next hb =>
      obtain ⟨node, hn, rfl⟩ := Option.map_eq_some_iff.mp h
      exact .node hb hn
    · cases h
  | nodeRead n =>
    simp only [onMaster] at h
    split at h
    · next packet rest hup =>
      obtain ⟨node, hn, rfl⟩ := Option.map_eq_some_iff.mp h
      exact .nodeRead hup hn
    · cases h
  | nodeReturn c err =>
    simp only [onMaster] at h
    split at h
    · next packetID nodeID j hloop =>
      split at h
      · next conn key out hcall =>
        cases h
        exact .nodeReturn hloop hcall rfl
      · cases h
    · cases h
  | masterReply c reply =>
    simp only [onMaster] at h
    split at h
    · next packetID hloop =>
      cases h
      exact .masterReply hloop
    · cases h
  | loopReply c ok =>
    simp only [onMaster] at h
    split at h
    · next reply hloop =>
      cases h
      exact .loopReply hloop
    · cases h
  | _ => cases h

theorem onSlave_step {s t : State} {a : Action} (h : onSlave s a = some t) :
    Step ttl masterOf s a t := by
  cases a with
  | slaveRead n =>
    simp only [onSlave] at h
    split at h
    · next packet j rest hslave hdown =>
      cases h
      exact .slaveRead hslave hdown
    · cases h
  | slaveHandle n heartbeat =>
    simp only [onSlave] at h
    split at h
    · next j packet hslave =>
      cases h
      exact .slaveHeartbeat hslave
    · next j packet hslave =>
      split at h
      · -- "invalid command" or "unknown action": no handler is called
        next reply hreply =>
        cases h
        exact .slaveRefused hslave hreply
      · next action cmd hcmd =>
        cases h
        exact .invoke hslave hcmd
    · cases h
  | handlerReturn n result =>
    simp only [onSlave] at h
    split at h
    · next j packetID hslave =>
      cases h
      exact .handlerReturn hslave
    · cases h
  | slaveReply n ok =>
    simp only [onSlave] at h
    split at h
    · next reply hslave =>
      cases h
      exact .slaveReply hslave
    · cases h
  | _ => cases h

/-- Every step of the machine is one of `Step`. -/
theorem step_cases {s t : State} {a : Action} (h : step ttl masterOf s a = some t) :
    Step ttl masterOf s a t := by
  cases a with
  | tables masters masterConns nodes =>
    cases h
    exact .tables
  | slaveRead n => exact onSlave_step h
  | slaveHandle n heartbeat => exact onSlave_step h
  | handlerReturn n result => exact onSlave_step h
  | slaveReply n ok => exact onSlave_step h
  | sendCommandWait k masterID nodeID command => exact onOrchestrator_step h
  | sendClusterCommandWait k clusterID nodeID command now masters => exact onOrchestrator_step h
  | lookupMaster k => exact onOrchestrator_step h
  | request k random => exact onOrchestrator_step h
  | write k ok => exact onOrchestrator_step h
  | orch b => exact onOrchestrator_step h
  | orchRead c => exact onOrchestrator_step h
  | answer c error => exact onOrchestrator_step h
  | _ => exact onMaster_step h

end Centralisd.Tiers
