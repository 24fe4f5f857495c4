import Centralisd.Core.Records
import Centralisd.Orchestrator.Commands

/-!
# Centralisd — what the web pages fetch

`sendNodeCommand` and the fetch functions of `src/orchestrator/web/main.go`.
What `SendClusterCommandWait` and `SendMasterCommandWait` of the store
return is an input, `none` for a nil store. `json.Marshal` does not fail on
the records it is given here.
-/

namespace Centralisd.Web

open Orchestrator

/-- `SendClusterCommandWait` of a store; timeouts are part of it. -/
abbrev Sender := TargetRequest → RawMessage → Except String CommandReply

def nodeTarget (clusterID nodeID : String) : TargetRequest where
  clusterID := clusterID
  nodeID := nodeID
  scope := .targetMasterByNode

def sendNodeCommand (store : Option Sender) (clusterID nodeID action : String)
    (params : RawMessage) : Except String CommandReply :=
  match store with
  | none => .error "nil store"
  | some send =>
    if trimSpace action = "" then .error "action is required"
    else send (nodeTarget clusterID nodeID) (some (NodeCommand.marshal ⟨trimSpace action, params⟩))

/-! ## Lists of one node -/

/-- What a fetch makes of the outcome of its command: the items and the
text of the error. -/
def readList {T : Type} (invalid : String) (unmarshal : Json → Option (List T)) :
    Except String CommandReply → List T × String
  | .error err => ([], err)
  | .ok reply =>
    if reply.status ≠ "ok" then ([], reply.message)
    else match reply.output.bind unmarshal with
      | none => ([], invalid)
      | some items => (items, "")

/-- The outcome of the command of `fetchNodeDocker` or
`fetchNodeDockerImages`; `none` if it sends none. -/
def dockerOutcome (action : String) (store : Option Sender) (clusterID nodeID : String) :
    Option (Except String CommandReply) :=
  store.bind fun send =>
    if clusterID = "" ∨ nodeID = "" then none
    else some (send (nodeTarget clusterID nodeID) (some (NodeCommand.marshal ⟨action, none⟩)))

/-- `fetchNodeDocker` and `fetchNodeDockerImages`. -/
def fetchDocker {T : Type} (action invalid : String) (unmarshal : Json → Option (List T))
    (store : Option Sender) (clusterID nodeID : String) : List T × String :=
  match dockerOutcome action store clusterID nodeID with
  | none => ([], "")
  | some outcome => readList invalid unmarshal outcome

def fetchNodeDocker : Option Sender → String → String → List DockerContainer × String :=
  fetchDocker "docker.containers.list" "invalid docker container list" unmarshalContainers

def fetchNodeDockerImages : Option Sender → String → String → List DockerImage × String :=
  fetchDocker "docker.images.list" "invalid docker image list" unmarshalImages

def fetchNodeVMDomains (store : Option Sender) (clusterID nodeID : String) :
    List VMDomain × String :=
  readList "invalid domain list" unmarshalVMDomains
    (sendNodeCommand store clusterID nodeID "libvirt.domains.list" none)

/-- `fetchNodeStoragePools` and `fetchNodeNetworks`: the items and the error,
`none` for nil. -/
def fetchLibvirt {T : Type} (action invalid : String) (unmarshal : Json → Option (List T))
    (store : Option Sender) (clusterID nodeID : String) : List T × Option String :=
  match sendNodeCommand store clusterID nodeID action none with
  | .error err => ([], some err)
  | .ok reply =>
    if reply.status ≠ "ok" then ([], some reply.message)
    else match reply.output.bind unmarshal with
      | none => ([], some invalid)
      | some items => (items, none)

def fetchNodeStoragePools : Option Sender → String → String →
    List LibvirtStoragePool × Option String :=
  fetchLibvirt "libvirt.storage.pools.list" "invalid storage pool list" unmarshalStoragePools

def fetchNodeNetworks : Option Sender → String → String → List LibvirtNetwork × Option String :=
  fetchLibvirt "libvirt.networks.list" "invalid network list" unmarshalNetworks

/-! ## The domains of a cluster -/

/-- The iteration of `fetchVMDomains` for one master, on what
`SendMasterCommandWait` returned for it. -/
def masterDomains (masterID : String) : Except String CommandReply → List VMListNode
  | .error err => [{ nodeID := masterID, error := err }]
  | .ok reply =>
    if reply.status ≠ "ok" then [{ nodeID := masterID, error := reply.message }]
    else match reply.output.bind VMListAggregate.unmarshal with
      | none => [{ nodeID := masterID, error := "invalid domain list" }]
      | some aggregate => aggregate.nodes

/-- `fetchVMDomains` on the masters that `MastersForCluster` returned. -/
def fetchVMDomains (send : String → RawMessage → Except String CommandReply) :
    List MasterEntry → List VMListNode
  | [] => []
  | master :: rest =>
    if master.id = "" then fetchVMDomains send rest
    else masterDomains master.id
        (send master.id (some (NodeCommand.marshal ⟨"libvirt.domains.list", none⟩))) ++
      fetchVMDomains send rest

/-! ## Failures -/

/-- A failure that comes without a text. -/
def SilentFailure : Except String CommandReply → Prop
  | .error err => err = ""
  | .ok reply => reply.status ≠ "ok" ∧ reply.message = ""

/-- A success: the reply is `"ok"` and its output is what was asked for. -/
def Fetched {T : Type} (unmarshal : Json → Option (List T)) (items : List T)
    (outcome : Except String CommandReply) : Prop :=
  ∃ reply, outcome = .ok reply ∧ reply.status = "ok" ∧ reply.output.bind unmarshal = some items

end Centralisd.Web
