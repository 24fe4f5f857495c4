import Centralisd.Web.Fetch
import Centralisd.Web.Fields

/-!
# Centralisd — forms and commands

The action handlers of `src/orchestrator/web/main.go`. A handler reads the
form, makes a command of it or refuses it with a text, and returns the text
of the failure, empty for a success.

The commands of virtual machines and of creating a container have typed
parameters; those of the other docker actions are built as maps, whose keys
`json.Marshal` writes in order.
-/

namespace Centralisd.Web

open Json

/-! ## Commands -/

/-- The command that `handleNodeVirtualizationAction` sends for a trimmed
action and a form, or the text it returns instead. -/
def virtualizationCommand (action : String) (form : Form) : Except String (String × Json) :=
  let name := trimSpace (form "vm_name")
  let domainAction (command : String) : Except String (String × Json) :=
    if name = "" then .error "vm name is required"
    else .ok (command, LibvirtVMActionParams.marshal { name })
  let autostart (enabled : Bool) : Except String (String × Json) :=
    if name = "" then .error "vm name is required"
    else .ok ("libvirt.domain.autostart", LibvirtVMSetAutostartParams.marshal { name, enabled })
  match action with
  | "" => .error "action is required"
  | "create" => match formValueUint form "memory_mb" 2048 with
    | none => .error "invalid memory value"
    | some memoryMB => match formValueUint form "vcpus" 2 with
      | none => .error "invalid vcpu value"
      | some vcpus => match formValueUint form "disk_size_gb" 20 with
        | none => .error "invalid disk size value"
        | some diskSizeGB =>
          if name = "" then .error "vm name is required"
          else .ok ("libvirt.domain.create", LibvirtVMCreateParams.marshal {
            name, memoryMB, vcpus, diskSizeGB
            diskPool := trimSpace (form "disk_pool")
            diskName := trimSpace (form "disk_name")
            network := trimSpace (form "network")
            isoPath := trimSpace (form "iso_path")
            autostart := formValueBool form "autostart"
            start := formValueBool form "start" })
  | "start" => domainAction "libvirt.domain.start"
  | "shutdown" => domainAction "libvirt.domain.shutdown"
  | "reboot" => domainAction "libvirt.domain.reboot"
  | "destroy" => domainAction "libvirt.domain.destroy"
  | "detach-iso" => domainAction "libvirt.domain.iso.detach"
  | "autostart-enable" => autostart true
  | "autostart-disable" => autostart false
  | "attach-iso" =>
    let isoPath := trimSpace (form "iso_path")
    if name = "" ∨ isoPath = "" then .error "vm name and iso path are required"
    else .ok ("libvirt.domain.iso.attach", LibvirtVMAttachISOParams.marshal { name, isoPath })
  | "delete" =>
    if name = "" then .error "vm name is required"
    else .ok ("libvirt.domain.delete", LibvirtVMDeleteParams.marshal {
      name
      forceStop := formValueBool form "force_stop"
      removeVolumes := formValueBool form "remove_volumes" })
  | _ => .error "unknown action"

/-- `params["timeout_seconds"]`. -/
def timeoutParam (form : Form) : List (String × Json) :=
  match formTimeout form with
  | none => []
  | some value => [("timeout_seconds", .num value 0)]

def dockerContainersCommand (action : String) (form : Form) : Except String (String × Json) :=
  let containerID := trimSpace (form "container_id")
  if action = "create" then
    if trimSpace (form "image") = "" then .error "image is required"
    else .ok ("docker.container.create", DockerContainerCreateParams.marshal {
      image := trimSpace (form "image")
      name := trimSpace (form "name")
      command := trimSpace (form "command")
      entrypoint := trimSpace (form "entrypoint")
      workingDir := trimSpace (form "working_dir")
      env := splitLines (form "env")
      ports := splitCSV (form "ports")
      publishAll := formValueBool form "publish_all"
      autoRemove := formValueBool form "auto_remove"
      restartPolicy := trimSpace (form "restart_policy")
      start := formValueBool form "start" })
  else if containerID = "" then .error "container id is required"
  else if action = "start" then
    .ok ("docker.container.start", .obj [("id", .str containerID)])
  else if action = "stop" then
    .ok ("docker.container.stop", .obj (("id", .str containerID) :: timeoutParam form))
  else if action = "restart" then
    .ok ("docker.container.restart", .obj (("id", .str containerID) :: timeoutParam form))
  else if action = "remove" then
    .ok ("docker.container.remove", .obj [("force", .bool (formValueBool form "force")),
      ("id", .str containerID), ("remove_volumes", .bool (formValueBool form "remove_volumes"))])
  else .error "unknown action"

def dockerImagesCommand (action : String) (form : Form) : Except String (String × Json) :=
  let image := trimSpace (form "image")
  if image = "" then .error "image is required"
  else if action = "pull" then .ok ("docker.image.pull", .obj [("image", .str image)])
  else if action = "remove" then
    .ok ("docker.image.remove", .obj [("force", .bool (formValueBool form "force")),
      ("image", .str image), ("prune_children", .bool (formValueBool form "prune_children"))])
  else .error "unknown action"

/-! ## Handlers -/

/-- The text for what came of a command. -/
def actionError : Except String CommandReply → String
  | .error err => err
  | .ok reply => if reply.status ≠ "ok" then reply.message else ""

/-- The pages with actions. -/
inductive ActionPage where
  | nodeVirtualization
  | dockerContainers
  | dockerImages
  deriving DecidableEq, Repr

/-- The command for an action and a form; only the virtualization page trims
the action itself. -/
def ActionPage.command : ActionPage → String → Form → Except String (String × Json)
  | .nodeVirtualization, action, form => virtualizationCommand (trimSpace action) form
  | .dockerContainers, action, form => dockerContainersCommand action form
  | .dockerImages, action, form => dockerImagesCommand action form

/-- `handleNodeVirtualizationAction` goes through `sendNodeCommand`, the other
two call `SendClusterCommandWait` themselves. -/
def ActionPage.send : ActionPage → Sender → String → String → String → Json →
    Except String CommandReply
  | .nodeVirtualization, send, clusterID, nodeID, action, params =>
    sendNodeCommand (some send) clusterID nodeID action (some params)
  | .dockerContainers, send, clusterID, nodeID, action, params
  | .dockerImages, send, clusterID, nodeID, action, params =>
    send (nodeTarget clusterID nodeID) (some (NodeCommand.marshal ⟨action, some params⟩))

/-- The three handlers. -/
def ActionPage.handle (page : ActionPage) (store : Option Sender)
    (clusterID nodeID action : String) (form : Form) : String :=
  match store with
  | none => ""
  | some send =>
    if clusterID = "" ∨ nodeID = "" then ""
    else match page.command action form with
      | .error text => text
      | .ok (command, params) => actionError (page.send send clusterID nodeID command params)

def handleNodeVirtualizationAction := ActionPage.handle .nodeVirtualization

def handleDockerContainersAction := ActionPage.handle .dockerContainers

def handleDockerImagesAction := ActionPage.handle .dockerImages

end Centralisd.Web
