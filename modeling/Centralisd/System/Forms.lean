import Centralisd.Core.RawText
import Centralisd.Master.OrchestratorLoop
import Centralisd.Orchestrator.Commands
import Centralisd.Slave.Handlers
import Centralisd.Web.Actions

/-!
# Centralisd — from a form to a handler's parameters

What becomes of a form on its way to the node: the action handler of
`src/orchestrator/web/main.go` makes a command of it, the parameters are
marshalled into a `NodeCommand`, that into an `OrchestratorCommand` and that
into a packet; the master reads the packet, takes the raw command out and
puts it into a packet of its own; the slave reads that packet, looks up the
handler and unmarshals the parameters into the handler's record. Everything
between the two ends is text here.

What a form stands for (`Submission`) is said field by field, without the
helpers of the action handlers.

* `parameters_survive` — a form becomes a command exactly if it is a
  submission, and the handler's record is the one it stands for.
-/

namespace Centralisd

open JsonText Json Web Orchestrator

/-! ## What the handlers read -/

/-- The records that the command handlers of the slave unmarshal their
parameters into. -/
inductive HandlerParams where
  | imagePull (params : DockerImagePullParams)
  | imageRemove (params : DockerImageRemoveParams)
  | containerCreate (params : DockerContainerCreateParams)
  | containerStart (params : DockerContainerStartParams)
  | containerStop (params : DockerContainerStopParams)
  | containerRestart (params : DockerContainerRestartParams)
  | containerRemove (params : DockerContainerRemoveParams)
  | vmCreate (params : LibvirtVMCreateParams)
  | vmAction (params : LibvirtVMActionParams)
  | vmSetAutostart (params : LibvirtVMSetAutostartParams)
  | vmAttachISO (params : LibvirtVMAttachISOParams)
  | vmDelete (params : LibvirtVMDeleteParams)
  deriving DecidableEq, Repr

/-- The record of the handler at a key of `commandHandlers`, from the value
of the parameters. `none` is a failed `Unmarshal`, or a handler that does not
look at its parameters. -/
def handlerRecord (key : String) (v : Json) : Option HandlerParams :=
  match key with
  | "docker.image.pull" => (DockerImagePullParams.unmarshal v).map .imagePull
  | "docker.image.remove" => (DockerImageRemoveParams.unmarshal v).map .imageRemove
  | "docker.container.create" => (DockerContainerCreateParams.unmarshal v).map .containerCreate
  | "docker.container.start" => (DockerContainerStartParams.unmarshal v).map .containerStart
  | "docker.container.stop" => (DockerContainerStopParams.unmarshal v).map .containerStop
  | "docker.container.restart" => (DockerContainerStopParams.unmarshal v).map .containerRestart
  | "docker.container.remove" => (DockerContainerRemoveParams.unmarshal v).map .containerRemove
  | "libvirt.domain.create" => (LibvirtVMCreateParams.unmarshal v).map .vmCreate
  | "libvirt.domain.start" => (LibvirtVMActionParams.unmarshal v).map .vmAction
  | "libvirt.domain.shutdown" => (LibvirtVMActionParams.unmarshal v).map .vmAction
  | "libvirt.domain.reboot" => (LibvirtVMActionParams.unmarshal v).map .vmAction
  | "libvirt.domain.destroy" => (LibvirtVMActionParams.unmarshal v).map .vmAction
  | "libvirt.domain.delete" => (LibvirtVMDeleteParams.unmarshal v).map .vmDelete
  | "libvirt.domain.autostart" => (LibvirtVMSetAutostartParams.unmarshal v).map .vmSetAutostart
  | "libvirt.domain.iso.attach" => (LibvirtVMAttachISOParams.unmarshal v).map .vmAttachISO
  | "libvirt.domain.iso.detach" => (LibvirtVMActionParams.unmarshal v).map .vmAction
  | _ => none

/-- `json.Unmarshal(cmd.Params, &params)`. -/
def handlerParams (key : String) (raw : List Char) : Option HandlerParams :=
  (parse interp raw).bind (handlerRecord key)

/-! ## The way of a command -/

/-- `DecodePayload`. -/
def decodeText {T : Type} (unmarshal : List Char → Option T) (p : WirePacket) : Except String T :=
  if p.payload = [] then .error "payload is empty"
  else match unmarshal p.payload with
    | none => .error "json"
    | some t => .ok t

/-- The text that an action handler sends: `json.Marshal` of the parameters
and of the `NodeCommand`. The virtualization page sends through
`sendNodeCommand`, which trims the action. -/
def Web.ActionPage.commandText (page : ActionPage) (command : String)
    (params : Json) : Except String (List Char) :=
  match page with
  | .nodeVirtualization => NodeCommandText.marshal ⟨trimSpace command, params.text⟩
  | .dockerContainers => NodeCommandText.marshal ⟨command, params.text⟩
  | .dockerImages => NodeCommandText.marshal ⟨command, params.text⟩

/-- The packet of `sendCommandWait`. -/
def orchestratorPacket (nodeID : String) (command : List Char) (id : String) :
    Except String WirePacket := do
  let payload ← OrchestratorCommandText.marshal ⟨nodeID, command⟩
  return { type := packetOrchCommand, id, payload }

/-- A packet written with `WritePacket` and read with `ReadPacket`, when
`rest` follows it on the connection. -/
def transmit (p : WirePacket) (rest : List Char) : Except String WirePacket := do
  let stream ← writePacket [] p
  (readPacket (stream ++ rest)).1

/-- `readOrchestratorLoop` on a packet, up to `sendCommandToNodeWait`: the node
and the packet for it. An error is a packet that is not sent on. -/
def forwardPacket (p : WirePacket) (id : String) : Except String (String × WirePacket) :=
  if p.type = packetAuthOK ∨ p.type = packetError then .error "orchestrator response"
  else if p.type ≠ packetOrchCommand then .error "orchestrator message unknown type"
  else match decodeText OrchestratorCommandText.unmarshal p with
    | .error _ => .error "orchestrator command invalid payload"
    | .ok cmd =>
      if cmd.command = [] then .error "orchestrator command missing command"
      else if cmd.nodeID = "" then .error "master command"
      else do
        let payload ← embed cmd.command
        return (cmd.nodeID, { type := packetNodeCommand, id, payload })

/-- The slave's packet loop and `handleNodeCommand` up to the call of the
command's handler. -/
def receivedCommand (p : WirePacket) : Except String (String × NodeCommandText) :=
  if Slave.packetHandlers p.type ≠ some .handleNodeCommand then .error "not a command"
  else match decodeText NodeCommandText.unmarshal p with
    | .error _ => .error "invalid command"
    | .ok cmd =>
      if trimSpace cmd.action ∈ Slave.commandHandlers then .ok (trimSpace cmd.action, cmd)
      else .error "unknown action"

/-- The whole way: the node, the key of the handler and the handler's record,
for a command that `SendClusterCommandWait` sends to `nodeID`. -/
def deliver (page : ActionPage) (nodeID command : String) (params : Json) (id id' : String)
    (rest rest' : List Char) : Except String (String × String × Option HandlerParams) := do
  let cmd ← page.commandText command params
  let packet ← orchestratorPacket nodeID cmd id
  let atMaster ← transmit packet rest
  let (node, forwarded) ← forwardPacket atMaster id'
  let atSlave ← transmit forwarded rest'
  let (key, received) ← receivedCommand atSlave
  return (node, key, handlerParams key received.params)

/-! ## What a form denotes -/

/-- The commands that take no more than the name of a machine. -/
def domainCommand : String → Option String
  | "start" => some "libvirt.domain.start"
  | "shutdown" => some "libvirt.domain.shutdown"
  | "reboot" => some "libvirt.domain.reboot"
  | "destroy" => some "libvirt.domain.destroy"
  | "detach-iso" => some "libvirt.domain.iso.detach"
  | _ => none

/-- The record of a form that creates a machine. -/
structure VMEntered (form : Form) (params : LibvirtVMCreateParams) : Prop where
  name : Entered (form "vm_name") params.name
  memoryMB : NumberEntered (form "memory_mb") 2048 params.memoryMB
  vcpus : NumberEntered (form "vcpus") 2 params.vcpus
  diskPool : Entered (form "disk_pool") params.diskPool
  diskName : Entered (form "disk_name") params.diskName
  diskSizeGB : NumberEntered (form "disk_size_gb") 20 params.diskSizeGB
  network : Entered (form "network") params.network
  isoPath : Entered (form "iso_path") params.isoPath
  autostart : params.autostart = true ↔ Ticked (form "autostart")
  start : params.start = true ↔ Ticked (form "start")

/-- The record of a form that creates a container. -/
structure ContainerEntered (form : Form) (params : DockerContainerCreateParams) : Prop where
  image : Entered (form "image") params.image
  name : Entered (form "name") params.name
  command : Entered (form "command") params.command
  entrypoint : Entered (form "entrypoint") params.entrypoint
  workingDir : Entered (form "working_dir") params.workingDir
  env : ListEntered '\n' (form "env") params.env
  ports : ListEntered ',' (form "ports") params.ports
  publishAll : params.publishAll = true ↔ Ticked (form "publish_all")
  autoRemove : params.autoRemove = true ↔ Ticked (form "auto_remove")
  restartPolicy : Entered (form "restart_policy") params.restartPolicy
  start : params.start = true ↔ Ticked (form "start")

/-- The record of a form that stops or restarts a container: a timeout is in
it exactly if a valid one was entered. -/
structure StopEntered (form : Form) (params : DockerContainerStopParams) : Prop where
  id : Entered (form "container_id") params.id
  timeout : ∀ value, params.timeoutSeconds = some value ↔ TimeoutEntered (form "timeout") value

/-- The command that a submission stands for and the values of its
parameters. What has to be there is not blank. -/
inductive Submission (form : Form) : ActionPage → String → String → HandlerParams → Prop where
  | vmCreate {action params} :
    Entered action "create" → VMEntered form params → params.name ≠ "" →
    Submission form .nodeVirtualization action "libvirt.domain.create" (.vmCreate params)
  | vmAction {action word command name} :
    Entered action word → domainCommand word = some command →
    Entered (form "vm_name") name → name ≠ "" →
    Submission form .nodeVirtualization action command (.vmAction ⟨name⟩)
  | vmSetAutostart {action name} (enabled : Bool) :
    Entered action (if enabled then "autostart-enable" else "autostart-disable") →
    Entered (form "vm_name") name → name ≠ "" →
    Submission form .nodeVirtualization action "libvirt.domain.autostart"
      (.vmSetAutostart ⟨name, enabled⟩)
  | vmAttachISO {action name isoPath} :
    Entered action "attach-iso" → Entered (form "vm_name") name → name ≠ "" →
    Entered (form "iso_path") isoPath → isoPath ≠ "" →
    Submission form .nodeVirtualization action "libvirt.domain.iso.attach"
      (.vmAttachISO ⟨name, isoPath⟩)
  | vmDelete {action name forceStop removeVolumes} :
    Entered action "delete" → Entered (form "vm_name") name → name ≠ "" →
    (forceStop = true ↔ Ticked (form "force_stop")) →
    (removeVolumes = true ↔ Ticked (form "remove_volumes")) →
    Submission form .nodeVirtualization action "libvirt.domain.delete"
      (.vmDelete ⟨name, forceStop, removeVolumes⟩)
  | containerCreate {params} :
    ContainerEntered form params → params.image ≠ "" →
    Submission form .dockerContainers "create" "docker.container.create" (.containerCreate params)
  | containerStart {id} :
    Entered (form "container_id") id → id ≠ "" →
    Submission form .dockerContainers "start" "docker.container.start" (.containerStart ⟨id⟩)
  | containerStop {params} :
    StopEntered form params → params.id ≠ "" →
    Submission form .dockerContainers "stop" "docker.container.stop" (.containerStop params)
  | containerRestart {params} :
    StopEntered form params → params.id ≠ "" →
    Submission form .dockerContainers "restart" "docker.container.restart"
      (.containerRestart params)
  | containerRemove {id force removeVolumes} :
    Entered (form "container_id") id → id ≠ "" →
    (force = true ↔ Ticked (form "force")) →
    (removeVolumes = true ↔ Ticked (form "remove_volumes")) →
    Submission form .dockerContainers "remove" "docker.container.remove"
      (.containerRemove ⟨id, force, removeVolumes⟩)
  | imagePull {image} :
    Entered (form "image") image → image ≠ "" →
    Submission form .dockerImages "pull" "docker.image.pull" (.imagePull ⟨image⟩)
  | imageRemove {image force pruneChildren} :
    Entered (form "image") image → image ≠ "" →
    (force = true ↔ Ticked (form "force")) →
    (pruneChildren = true ↔ Ticked (form "prune_children")) →
    Submission form .dockerImages "remove" "docker.image.remove"
      (.imageRemove ⟨image, force, pruneChildren⟩)

/-! ## The records of the handlers -/

theorem record_vmCreate (params : LibvirtVMCreateParams) :
    handlerRecord "libvirt.domain.create" params.marshal = some (.vmCreate params) := by
  have h := LibvirtVMCreateParams.unmarshal_marshal params
  exact congrArg (Option.map HandlerParams.vmCreate) h

theorem record_vmAction {word command : String} (hword : domainCommand word = some command)
    (params : LibvirtVMActionParams) :
    handlerRecord command params.marshal = some (.vmAction params) := by
  have h := LibvirtVMActionParams.unmarshal_marshal params
  unfold domainCommand at hword
  split at hword <;> cases hword <;> exact congrArg (Option.map HandlerParams.vmAction) h

theorem record_vmSetAutostart (params : LibvirtVMSetAutostartParams) :
    handlerRecord "libvirt.domain.autostart" params.marshal = some (.vmSetAutostart params) := by
  have h := LibvirtVMSetAutostartParams.unmarshal_marshal params
  exact congrArg (Option.map HandlerParams.vmSetAutostart) h

theorem record_vmAttachISO (params : LibvirtVMAttachISOParams) :
    handlerRecord "libvirt.domain.iso.attach" params.marshal = some (.vmAttachISO params) := by
  have h := LibvirtVMAttachISOParams.unmarshal_marshal params
  exact congrArg (Option.map HandlerParams.vmAttachISO) h

theorem record_vmDelete (params : LibvirtVMDeleteParams) :
    handlerRecord "libvirt.domain.delete" params.marshal = some (.vmDelete params) := by
  have h := LibvirtVMDeleteParams.unmarshal_marshal params
  exact congrArg (Option.map HandlerParams.vmDelete) h

theorem record_containerCreate (params : DockerContainerCreateParams) :
    handlerRecord "docker.container.create" params.marshal = some (.containerCreate params) := by
  have h := DockerContainerCreateParams.unmarshal_marshal params
  exact congrArg (Option.map HandlerParams.containerCreate) h

-- the parameters that are built as maps

theorem unmarshal_start (id : String) :
    DockerContainerStartParams.unmarshal (.obj [("id", .str id)]) = some ⟨id⟩ :=
  Reads.unmarshal (.field "ID" (by decide) rfl)

theorem unmarshal_stop (id : String) (form : Form) :
    DockerContainerStopParams.unmarshal (.obj (("id", .str id) :: timeoutParam form)) =
      some ⟨id, formTimeout form⟩ := by
  refine Reads.unmarshal (.append { id } (.field "ID" (by decide) rfl) ?_)
  cases htimeout : formTimeout form with
  | none => rfl
  | some n =>
    refine .field "TIMEOUT_SECONDS" (by decide) ?_
    rw [DockerContainerStopParams.set, asIntPtr, if_pos (formTimeout_range htimeout)]
    rfl

theorem unmarshal_remove (id : String) (force removeVolumes : Bool) :
    DockerContainerRemoveParams.unmarshal (.obj [("force", .bool force), ("id", .str id),
      ("remove_volumes", .bool removeVolumes)]) = some ⟨id, force, removeVolumes⟩ :=
  Reads.unmarshal <| .append { force } (.field "FORCE" (by decide) rfl) <|
    .append { id, force } (.field "ID" (by decide) rfl) (.field "REMOVE_VOLUMES" (by decide) rfl)

theorem unmarshal_pull (image : String) :
    DockerImagePullParams.unmarshal (.obj [("image", .str image)]) = some ⟨image⟩ :=
  Reads.unmarshal (.field "IMAGE" (by decide) rfl)

theorem unmarshal_imageRemove (image : String) (force pruneChildren : Bool) :
    DockerImageRemoveParams.unmarshal (.obj [("force", .bool force), ("image", .str image),
      ("prune_children", .bool pruneChildren)]) = some ⟨image, force, pruneChildren⟩ :=
  Reads.unmarshal <| .append { force } (.field "FORCE" (by decide) rfl) <|
    .append { image, force } (.field "IMAGE" (by decide) rfl)
      (.field "PRUNE_CHILDREN" (by decide) rfl)

/-! ## The command of a form -/

/-- The handler of the command makes of the parameters what the submission
stands for. -/
structure Carried (form : Form) (page : ActionPage) (action command : String)
    (params : Json) : Prop where
  key : command ∈ Slave.commandHandlers
  record : ∃ seen, Submission form page action command seen ∧
    handlerRecord command params = some seen

theorem trimSpace_key : ∀ key ∈ Slave.commandHandlers, trimSpace key = key := by
  decide +kernel

theorem domainCommand_key {word command : String} (h : domainCommand word = some command) :
    command ∈ Slave.commandHandlers := by
  unfold domainCommand at h
  split at h <;> cases h <;> decide

/-- A command that is refused on a condition. -/
theorem carried_unless {form : Form} {page : ActionPage} {action : String} {c : Prop}
    [Decidable c] {text command command' : String} {params params' : Json}
    (h : (if c then .error text else .ok (command', params')) =
      (Except.ok (command, params) : Except String (String × Json)))
    (hcarried : ¬ c → Carried form page action command' params') :
    Carried form page action command params := by
  split at h
  · exact absurd h (by simp)
  next hc =>
    obtain ⟨rfl, rfl⟩ := Prod.mk.inj (Except.ok.inj h)
    exact hcarried hc

theorem carried_virtualization {action : String} {form : Form} {command : String} {params : Json}
    (h : ActionPage.nodeVirtualization.command action form = .ok (command, params)) :
    Carried form .nodeVirtualization action command params := by
  have h' : virtualizationCommand (trimSpace action) form = .ok (command, params) := h
  have hentered : Entered action (trimSpace action) := entered_trimSpace action
  have hname : Entered (form "vm_name") (trimSpace (form "vm_name")) := entered_trimSpace _
  have haction (word command : String) (hword : domainCommand word = some command)
      (hentered : Entered action word) (hne : trimSpace (form "vm_name") ≠ "") :
      Carried form .nodeVirtualization action command
        (LibvirtVMActionParams.marshal ⟨trimSpace (form "vm_name")⟩) :=
    ⟨domainCommand_key hword, _, .vmAction hentered hword hname hne, record_vmAction hword _⟩
  -- the `switch` is on the trimmed action; the commands come in its order
  generalize trimSpace action = trimmed at h' hentered
  unfold virtualizationCommand at h'
  dsimp only at h'
  split at h'
  · exact absurd h' (by simp)
  · -- create: the three numbers are valid
    split at h'
    · exact absurd h' (by simp)
    next memoryMB hmemory =>
    split at h'
    · exact absurd h' (by simp)
    next vcpus hvcpus =>
    split at h'
    · exact absurd h' (by simp)
    next diskSizeGB hdisk =>
    refine carried_unless h' fun hne => ⟨by decide, _, ?_, record_vmCreate _⟩
    refine .vmCreate hentered ?_ hne
    exact {
      name := hname
      memoryMB := numberEntered_iff.mpr hmemory
      vcpus := numberEntered_iff.mpr hvcpus
      diskPool := entered_trimSpace _
      diskName := entered_trimSpace _
      diskSizeGB := numberEntered_iff.mpr hdisk
      network := entered_trimSpace _
      isoPath := entered_trimSpace _
      autostart := by
        dsimp only
        exact ticked_iff form "autostart"
      start := by
        dsimp only
        exact ticked_iff form "start" }
  · exact carried_unless h' (haction _ _ rfl hentered)
  · exact carried_unless h' (haction _ _ rfl hentered)
  · exact carried_unless h' (haction _ _ rfl hentered)
  · exact carried_unless h' (haction _ _ rfl hentered)
  · exact carried_unless h' (haction _ _ rfl hentered)
  · exact carried_unless h' fun hne =>
      ⟨by decide, _, .vmSetAutostart true hentered hname hne, record_vmSetAutostart _⟩
  · exact carried_unless h' fun hne =>
      ⟨by decide, _, .vmSetAutostart false hentered hname hne, record_vmSetAutostart _⟩
  · refine carried_unless h' fun hne => ⟨by decide, _, ?_, record_vmAttachISO _⟩
    obtain ⟨hvm, hiso⟩ := not_or.mp hne
    exact .vmAttachISO hentered hname hvm (entered_trimSpace _) hiso
  · exact carried_unless h' fun hne => ⟨by decide, _,
      .vmDelete hentered hname hne (ticked_iff _ _) (ticked_iff _ _), record_vmDelete _⟩
  · exact absurd h' (by simp)

theorem stopEntered (form : Form) :
    StopEntered form ⟨trimSpace (form "container_id"), formTimeout form⟩ where
  id := entered_trimSpace _
  timeout _ := timeoutEntered_iff

theorem carried_containers {action : String} {form : Form} {command : String} {params : Json}
    (h : ActionPage.dockerContainers.command action form = .ok (command, params)) :
    Carried form .dockerContainers action command params := by
  have h' : dockerContainersCommand action form = .ok (command, params) := h
  have hid : Entered (form "container_id") (trimSpace (form "container_id")) :=
    entered_trimSpace _
  unfold dockerContainersCommand at h'
  dsimp only at h'
  split at h'
  · next haction =>
    subst haction
    refine carried_unless h' fun hne => ⟨by decide, _, ?_, record_containerCreate _⟩
    refine .containerCreate ?_ hne
    exact {
      image := entered_trimSpace _
      name := entered_trimSpace _
      command := entered_trimSpace _
      entrypoint := entered_trimSpace _
      workingDir := entered_trimSpace _
      env := by
        dsimp only [splitLines]
        exact listEntered_splitTrimmed _ _
      ports := by
        dsimp only [splitCSV]
        exact listEntered_splitTrimmed _ _
      publishAll := by
        dsimp only
        exact ticked_iff form "publish_all"
      autoRemove := by
        dsimp only
        exact ticked_iff form "auto_remove"
      restartPolicy := entered_trimSpace _
      start := by
        dsimp only
        exact ticked_iff form "start" }
  -- all other actions need the ID of a container
  split at h'
  · exact absurd h' (by simp)
  next hne =>
  split at h'
  · next haction =>
    subst haction
    cases h'
    exact ⟨by decide, _, .containerStart hid hne, congrArg (Option.map _) (unmarshal_start _)⟩
  split at h'
  · next haction =>
    subst haction
    cases h'
    exact ⟨by decide, _, .containerStop (stopEntered form) hne,
      congrArg (Option.map _) (unmarshal_stop _ form)⟩
  split at h'
  · next haction =>
    subst haction
    cases h'
    exact ⟨by decide, _, .containerRestart (stopEntered form) hne,
      congrArg (Option.map _) (unmarshal_stop _ form)⟩
  split at h'
  · next haction =>
    subst haction
    cases h'
    exact ⟨by decide, _, .containerRemove hid hne (ticked_iff _ _) (ticked_iff _ _),
      congrArg (Option.map _) (unmarshal_remove _ _ _)⟩
  · exact absurd h' (by simp)

theorem carried_images {action : String} {form : Form} {command : String} {params : Json}
    (h : ActionPage.dockerImages.command action form = .ok (command, params)) :
    Carried form .dockerImages action command params := by
  have h' : dockerImagesCommand action form = .ok (command, params) := h
  have himage : Entered (form "image") (trimSpace (form "image")) := entered_trimSpace _
  unfold dockerImagesCommand at h'
  dsimp only at h'
  split at h'
  · exact absurd h' (by simp)
  next hne =>
  split at h'
  · next haction =>
    subst haction
    cases h'
    exact ⟨by decide, _, .imagePull himage hne, congrArg (Option.map _) (unmarshal_pull _)⟩
  split at h'
  · next haction =>
    subst haction
    cases h'
    exact ⟨by decide, _, .imageRemove himage hne (ticked_iff _ _) (ticked_iff _ _),
      congrArg (Option.map _) (unmarshal_imageRemove _ _ _)⟩
  · exact absurd h' (by simp)

theorem carried_of_command {page : ActionPage} {action : String} {form : Form} {command : String}
    {params : Json} (h : page.command action form = .ok (command, params)) :
    Carried form page action command params := by
  cases page with
  | nodeVirtualization => exact carried_virtualization h
  | dockerContainers => exact carried_containers h
  | dockerImages => exact carried_images h

/-! ## The form of a command -/

theorem formValueBool_eq {form : Form} {key : String} {b : Bool} :
    formValueBool form key = b ↔ (b = true ↔ Ticked (form key)) := by
  rw [← ticked_iff, Bool.eq_iff_iff]
  exact ⟨Iff.symm, Iff.symm⟩

theorem StopEntered.formTimeout_eq {form : Form} {params : DockerContainerStopParams}
    (h : StopEntered form params) : formTimeout form = params.timeoutSeconds :=
  Option.ext fun value => timeoutEntered_iff.trans (h.timeout value).symm

theorem StopEntered.unmarshal {form : Form} {params : DockerContainerStopParams}
    (h : StopEntered form params) :
    DockerContainerStopParams.unmarshal (.obj (("id", .str params.id) :: timeoutParam form)) =
      some params := by
  rw [unmarshal_stop, h.formTimeout_eq]

/-- A submission is turned into its command, and the handler of the command
makes its record of the parameters. -/
theorem Submission.made {form : Form} {page : ActionPage} {action command : String}
    {seen : HandlerParams} (h : Submission form page action command seen) :
    ∃ params, page.command action form = .ok (command, params) ∧
      handlerRecord command params = some seen := by
  cases h with
  | vmCreate haction h hname =>
    refine ⟨_, ?_, congrArg (Option.map _) (LibvirtVMCreateParams.unmarshal_marshal _)⟩
    show virtualizationCommand (trimSpace action) form = _
    rw [entered_iff.mp haction, virtualizationCommand]
    simp only [numberEntered_iff.mp h.memoryMB, numberEntered_iff.mp h.vcpus,
      numberEntered_iff.mp h.diskSizeGB, entered_iff.mp h.name, entered_iff.mp h.diskPool,
      entered_iff.mp h.diskName, entered_iff.mp h.network, entered_iff.mp h.isoPath,
      formValueBool_eq.mpr h.autostart, formValueBool_eq.mpr h.start, if_neg hname]
  | vmAction haction hword hname hne =>
    refine ⟨_, ?_, record_vmAction hword _⟩
    show virtualizationCommand (trimSpace action) form = _
    rw [entered_iff.mp haction]
    unfold domainCommand at hword
    split at hword <;> cases hword <;>
      simp only [virtualizationCommand, entered_iff.mp hname, if_neg hne]
  | vmSetAutostart enabled haction hname hne =>
    refine ⟨_, ?_, record_vmSetAutostart _⟩
    show virtualizationCommand (trimSpace action) form = _
    rw [entered_iff.mp haction]
    cases enabled <;>
      simp only [virtualizationCommand, entered_iff.mp hname, if_neg hne, if_true,
        Bool.false_eq_true, if_false]
  | vmAttachISO haction hname hne hiso hisone =>
    refine ⟨_, ?_, record_vmAttachISO _⟩
    show virtualizationCommand (trimSpace action) form = _
    rw [entered_iff.mp haction]
    simp only [virtualizationCommand, entered_iff.mp hname, entered_iff.mp hiso,
      if_neg (not_or.mpr ⟨hne, hisone⟩)]
  | vmDelete haction hname hne hforce hvolumes =>
    refine ⟨_, ?_, record_vmDelete _⟩
    show virtualizationCommand (trimSpace action) form = _
    rw [entered_iff.mp haction]
    simp only [virtualizationCommand, entered_iff.mp hname, formValueBool_eq.mpr hforce,
      formValueBool_eq.mpr hvolumes, if_neg hne]
  | containerCreate h himage =>
    refine ⟨_, ?_, record_containerCreate _⟩
    show dockerContainersCommand "create" form = _
    simp only [dockerContainersCommand, entered_iff.mp h.image, entered_iff.mp h.name,
      entered_iff.mp h.command, entered_iff.mp h.entrypoint, entered_iff.mp h.workingDir,
      splitLines, splitCSV, listEntered_iff.mp h.env, listEntered_iff.mp h.ports,
      formValueBool_eq.mpr h.publishAll, formValueBool_eq.mpr h.autoRemove,
      entered_iff.mp h.restartPolicy, formValueBool_eq.mpr h.start, if_neg himage, if_true]
  | containerStart hid hne =>
    refine ⟨_, ?_, congrArg (Option.map HandlerParams.containerStart) (unmarshal_start _)⟩
    show dockerContainersCommand "start" form = _
    simp [dockerContainersCommand, entered_iff.mp hid, hne]
  | containerStop h hne =>
    refine ⟨_, ?_, congrArg (Option.map HandlerParams.containerStop) (h.unmarshal)⟩
    show dockerContainersCommand "stop" form = _
    simp [dockerContainersCommand, entered_iff.mp h.id, hne]
  | containerRestart h hne =>
    refine ⟨_, ?_, congrArg (Option.map HandlerParams.containerRestart) (h.unmarshal)⟩
    show dockerContainersCommand "restart" form = _
    simp [dockerContainersCommand, entered_iff.mp h.id, hne]
  | containerRemove hid hne hforce hvolumes =>
    refine ⟨_, ?_, congrArg (Option.map HandlerParams.containerRemove) (unmarshal_remove _ _ _)⟩
    show dockerContainersCommand "remove" form = _
    simp [dockerContainersCommand, entered_iff.mp hid, formValueBool_eq.mpr hforce,
      formValueBool_eq.mpr hvolumes, hne]
  | imagePull himage hne =>
    refine ⟨_, ?_, congrArg (Option.map HandlerParams.imagePull) (unmarshal_pull _)⟩
    show dockerImagesCommand "pull" form = _
    simp [dockerImagesCommand, entered_iff.mp himage, hne]
  | imageRemove himage hne hforce hprune =>
    refine ⟨_, ?_, congrArg (Option.map HandlerParams.imageRemove) (unmarshal_imageRemove _ _ _)⟩
    show dockerImagesCommand "remove" form = _
    simp [dockerImagesCommand, entered_iff.mp himage, formValueBool_eq.mpr hforce,
      formValueBool_eq.mpr hprune, hne]

/-- A submission stands for one record. -/
theorem Submission.unique {form : Form} {page : ActionPage} {action command : String}
    {seen seen' : HandlerParams} (h : Submission form page action command seen)
    (h' : Submission form page action command seen') : seen' = seen := by
  obtain ⟨params, hcommand, hrecord⟩ := h.made
  obtain ⟨params', hcommand', hrecord'⟩ := h'.made
  rw [hcommand] at hcommand'
  obtain ⟨-, rfl⟩ := Prod.mk.inj (Except.ok.inj hcommand')
  rw [hrecord] at hrecord'
  exact (Option.some.inj hrecord').symm

/-! ## Each part of the way -/

theorem decodeText_ok {T : Type} {unmarshal : List Char → Option T} {p : WirePacket} {v : Json}
    {t : T} (hp : Denotes interp p.payload v) (ht : unmarshal p.payload = some t) :
    decodeText unmarshal p = .ok t := by
  rw [decodeText, if_neg hp.ne_nil, ht]

/-- A related pair of results, the second of which has succeeded. -/
theorem rel_some {T U : Type} {R : T → U → Prop} {a : Option T} {b : Option U} {u : U}
    (h : Option.Rel R a b) (hb : b = some u) : ∃ t, a = some t ∧ R t u := by
  subst hb
  cases h with
  | some h => exact ⟨_, rfl, h⟩

/-- What is written is read, up to the text of the payload. -/
theorem transmit_ok {p : WirePacket} {v : Json} (htype : trimSpace p.type ≠ "")
    (hp : Denotes interp p.payload v) (rest : List Char) :
    ∃ q, transmit p rest = .ok q ∧ q.type = p.type ∧ Denotes interp q.payload v := by
  have hdocument : ∃ d : Document, d.text = p.payload := hp.imp fun _ hd => hd.1
  have hsendable : p.Sendable := ⟨htype, .inr hdocument⟩
  obtain ⟨frame, q, hsame, hwrite, hread⟩ := hsendable.frame
  have hwritten : writePacket [] p = .ok frame := hwrite .writePacket []
  refine ⟨q, ?_, hsame.type, ?_⟩
  · unfold transmit
    rw [hwritten]
    show (readPacket (frame ++ rest)).1 = _
    rw [hread]
  · rcases hsame.payload with ⟨hnil, -⟩ | ⟨w, hpw, hqw⟩
    · exact absurd hnil hp.ne_nil
    · have hvw : some v = some w := hp.parse_eq.symm.trans hpw.parse_eq
      rw [Option.some.inj hvw]
      exact hqw

theorem orchestratorPacket_ok (nodeID id : String) {command : List Char} {v : Json}
    (h : Denotes interp command v) :
    ∃ p, orchestratorPacket nodeID command id = .ok p ∧ p.type = packetOrchCommand ∧
      Denotes interp p.payload (OrchestratorCommand.marshal ⟨nodeID, some v⟩) := by
  obtain ⟨payload, hmarshal, hpayload⟩ := OrchestratorCommandText.marshal_denotes nodeID h
  refine ⟨{ type := packetOrchCommand, id, payload }, ?_, rfl, hpayload⟩
  unfold orchestratorPacket
  rw [hmarshal]
  rfl

/-- The master sends on the command that it has received. -/
theorem forwardPacket_ok {p : WirePacket} {nodeID : String} {v : Json} (id : String)
    (htype : p.type = packetOrchCommand) (hnode : nodeID ≠ "")
    (hp : Denotes interp p.payload (OrchestratorCommand.marshal ⟨nodeID, some v⟩)) :
    ∃ q, forwardPacket p id = .ok (nodeID, q) ∧ q.type = packetNodeCommand ∧
      Denotes interp q.payload v := by
  obtain ⟨cmd, hcmd, his⟩ := rel_some (OrchestratorCommandText.unmarshal_rel hp)
    (OrchestratorCommand.unmarshal_marshal nodeID v)
  have hcommand : Denotes interp cmd.command v := his.command
  obtain ⟨s, hembed, hs⟩ := embed_denotes hcommand
  refine ⟨{ type := packetNodeCommand, id, payload := s.text }, ?_, rfl, hs ▸ s.denotes_text interp⟩
  have hanswer : ¬ (p.type = packetAuthOK ∨ p.type = packetError) := by
    rw [htype]
    decide
  have hnode' : cmd.nodeID ≠ "" := his.nodeID ▸ hnode
  unfold forwardPacket
  rw [if_neg hanswer, if_neg (not_not.mpr htype), decodeText_ok hp hcmd]
  dsimp only
  rw [if_neg hcommand.ne_nil, if_neg hnode', hembed, his.nodeID]
  rfl

/-- The slave finds the handler and its parameters. -/
theorem receivedCommand_ok {p : WirePacket} {action : String} {v : Json}
    (htype : p.type = packetNodeCommand) (haction : trimSpace action ∈ Slave.commandHandlers)
    (hp : Denotes interp p.payload (NodeCommand.marshal ⟨action, some v⟩)) :
    ∃ cmd, receivedCommand p = .ok (trimSpace action, cmd) ∧ Denotes interp cmd.params v := by
  obtain ⟨cmd, hcmd, his⟩ := rel_some (NodeCommandText.unmarshal_rel hp)
    (NodeCommand.unmarshal_marshal ⟨action, some v⟩)
  refine ⟨cmd, ?_, his.params⟩
  have hhandler : Slave.packetHandlers p.type = some .handleNodeCommand := by
    rw [htype]
    decide
  have hkey : trimSpace cmd.action ∈ Slave.commandHandlers := his.action ▸ haction
  unfold receivedCommand
  rw [if_neg (not_not.mpr hhandler), decodeText_ok hp hcmd]
  dsimp only
  rw [if_pos hkey, his.action]

theorem commandText_ok (page : ActionPage) {command : String}
    (hkey : command ∈ Slave.commandHandlers) (params : Json) :
    ∃ t, page.commandText command params = .ok t ∧
      Denotes interp t (NodeCommand.marshal ⟨command, some params⟩) := by
  obtain ⟨t, ht, hdenotes⟩ := NodeCommandText.marshal_denotes command params.denotes_text
  refine ⟨t, ?_, hdenotes⟩
  cases page with
  | nodeVirtualization =>
    show NodeCommandText.marshal ⟨trimSpace command, params.text⟩ = _
    rw [trimSpace_key command hkey, ht]
  | dockerContainers => exact ht
  | dockerImages => exact ht

/-- Whatever the parameters, the node's handler gets them. -/
theorem deliver_eq (page : ActionPage) {nodeID command : String}
    (hkey : command ∈ Slave.commandHandlers) (hnode : nodeID ≠ "") (params : Json)
    (id id' : String) (rest rest' : List Char) :
    deliver page nodeID command params id id' rest rest' =
      .ok (nodeID, command, handlerRecord command params) := by
  have horch : trimSpace packetOrchCommand ≠ "" := by decide
  have hnodeCommand : trimSpace packetNodeCommand ≠ "" := by decide
  have htrim := trimSpace_key command hkey
  obtain ⟨t, htext, ht⟩ := commandText_ok page hkey params
  obtain ⟨p, hpacket, hptype, hp⟩ := orchestratorPacket_ok nodeID id ht
  obtain ⟨q, htransmit, hqtype, hq⟩ := transmit_ok (hptype ▸ horch) hp rest
  obtain ⟨p', hforward, hptype', hp'⟩ := forwardPacket_ok id' (hqtype.trans hptype) hnode hq
  obtain ⟨q', htransmit', hqtype', hq'⟩ := transmit_ok (hptype' ▸ hnodeCommand) hp' rest'
  obtain ⟨cmd, hreceived, hcmd⟩ :=
    receivedCommand_ok (hqtype'.trans hptype') (htrim.symm ▸ hkey) hq'
  rw [htrim] at hreceived
  have hparams : handlerParams command cmd.params = handlerRecord command params := by
    rw [handlerParams, hcmd.parse_eq, Option.bind_some]
  simp only [deliver, htext, hpacket, htransmit, hforward, htransmit', hreceived, hparams, bind,
    Except.bind]
  rfl

/-! ## Main result -/

/-- The text that is sent denotes the command that the handler gives to
`SendClusterCommandWait`. -/
theorem commandText_sent {page : ActionPage} {action : String} {form : Form} {command : String}
    {params : Json} (h : page.command action form = .ok (command, params)) (send : Sender)
    (clusterID nodeID : String) :
    ∃ t v, page.commandText command params = .ok t ∧ Denotes interp t v ∧
      page.send send clusterID nodeID command params =
        send (nodeTarget clusterID nodeID) (some v) := by
  have hkey := (carried_of_command h).key
  obtain ⟨t, ht, hdenotes⟩ := commandText_ok page hkey params
  refine ⟨t, _, ht, hdenotes, ?_⟩
  cases page with
  | nodeVirtualization =>
    have htrim := trimSpace_key command hkey
    have hne : command ≠ "" := by
      rintro rfl
      exact absurd hkey (by decide)
    show sendNodeCommand (some send) clusterID nodeID command (some params) = _
    simp only [sendNodeCommand, htrim, if_neg hne]
  | dockerContainers => rfl
  | dockerImages => rfl

/-- On every page, for every action and form:

1. the action handler turns them into a command exactly if they are a
   submission of it;
2. the command is then a key of `commandHandlers`;
3. the handler gives `SendClusterCommandWait` the text that sets out on the way;
4. when a master is found for the node, the command handler on the node gets
   the one record that the submission stands for, whatever follows on the two
   connections. -/
theorem parameters_survive (page : ActionPage) (action : String) (form : Form) :
    (∀ command, (∃ params, page.command action form = .ok (command, params)) ↔
      ∃ seen, Submission form page action command seen) ∧
    ∀ command params, page.command action form = .ok (command, params) →
      command ∈ Slave.commandHandlers ∧
      (∀ (send : Sender) (clusterID nodeID : String),
        ∃ t v, page.commandText command params = .ok t ∧ Denotes interp t v ∧
          page.send send clusterID nodeID command params =
            send (nodeTarget clusterID nodeID) (some v)) ∧
      ∃ seen, (∀ other, Submission form page action command other ↔ other = seen) ∧
        ∀ (clusterID nodeID : String) (masters : List MasterEntry) (master : MasterEntry),
          selectMaster (nodeTarget clusterID nodeID).trimmed masters = .ok master →
          ∀ (id id' : String) (rest rest' : List Char),
            deliver page (trimSpace nodeID) command params id id' rest rest' =
              .ok (trimSpace nodeID, command, some seen) := by
  refine ⟨fun command => ⟨?_, ?_⟩, ?_⟩
  · rintro ⟨params, hcommand⟩
    exact (carried_of_command hcommand).record.imp fun _ h => h.1
  · rintro ⟨seen, hsubmission⟩
    exact hsubmission.made.imp fun _ h => h.1
  · intro command params hcommand
    obtain ⟨hkey, seen, hsubmission, hrecord⟩ := carried_of_command hcommand
    refine ⟨hkey, commandText_sent hcommand, seen, ?_, ?_⟩
    · exact fun other => ⟨hsubmission.unique, fun h => h ▸ hsubmission⟩
    · intro clusterID nodeID masters master hmaster id id' rest rest'
      have hnode : trimSpace nodeID ≠ "" := (selectMaster_ok rfl hmaster).2.1
      rw [deliver_eq page hkey hnode, hrecord]

/-- A form with its fields. -/
def formOf (fields : List (String × String)) : Form := fun key => (fields.lookup key).getD ""

/-- A machine with all the memory that a `uint64` can say, seven processors
and a disk of the default size. -/
def machineForm : Form := formOf [("vm_name", " db "), ("memory_mb", "18446744073709551615"),
  ("vcpus", " 007\t"), ("disk_size_gb", "  "), ("autostart", "Yes"), ("start", "0")]

/-- A container with an environment and ports. -/
def containerForm : Form := formOf [("image", "nginx"), ("env", "A=1\r\n\r\n B=2 , C \n"),
  ("ports", ", 80:80 ,, 443:443"), ("publish_all", "oN")]

def stopForm (timeout : String) : Form :=
  formOf [("container_id", " web "), ("timeout", timeout)]

/-- A container is removed by force and keeps its volumes. -/
def removeForm : Form := formOf [("container_id", " web "), ("force", "On")]

/-- The form becomes the command, and the record arrives at a node `n`. -/
def Arrives (page : ActionPage) (action : String) (form : Form) (command : String)
    (seen : HandlerParams) : Prop :=
  ∃ params, page.command action form = .ok (command, params) ∧
    deliver page "n" command params "1" "2" [] [] = .ok ("n", command, some seen)

/-- Numbers and boxes, two lists, a timeout, one that is not valid, and the
options of a removal. -/
theorem parameters_survive_forms :
    Arrives .nodeVirtualization " create" machineForm "libvirt.domain.create" (.vmCreate {
      name := "db"
      memoryMB := 18446744073709551615
      vcpus := 7
      diskSizeGB := 20
      autostart := true }) ∧
    Arrives .dockerContainers "create" containerForm "docker.container.create" (.containerCreate {
      image := "nginx"
      env := ["A=1", "B=2 , C"]
      ports := ["80:80", "443:443"]
      publishAll := true }) ∧
    Arrives .dockerContainers "stop" (stopForm "+30") "docker.container.stop"
      (.containerStop ⟨"web", some 30⟩) ∧
    Arrives .dockerContainers "restart" (stopForm "-1") "docker.container.restart"
      (.containerRestart ⟨"web", none⟩) ∧
    Arrives .dockerContainers "remove" removeForm "docker.container.remove"
      (.containerRemove ⟨"web", true, false⟩) := by
  have harrives : ∀ {page action form command seen},
      Submission form page action command seen → Arrives page action form command seen := by
    intro page action form command seen hsubmission
    obtain ⟨hmade, hway⟩ := parameters_survive page action form
    obtain ⟨params, hcommand⟩ := (hmade command).mpr ⟨seen, hsubmission⟩
    obtain ⟨-, -, record, honly, hdeliver⟩ := hway command params hcommand
    obtain rfl := (honly seen).mp hsubmission
    have hselect : selectMaster (nodeTarget "c" "n").trimmed
        [{ id := "m", nodes := [{ id := "n" }], lastSeen := 0 }] =
          .ok { id := "m", nodes := [{ id := "n" }], lastSeen := 0 } := rfl
    have htrim : trimSpace "n" = "n" := by decide
    have hdelivered := hdeliver "c" "n" _ _ hselect "1" "2" [] []
    rw [htrim] at hdelivered
    exact ⟨params, hcommand, hdelivered⟩
  refine ⟨harrives (.vmCreate (entered_iff.mpr (by decide)) ?_ (by decide)),
    harrives (.containerCreate ?_ (by decide)), harrives (.containerStop ?_ (by decide)),
    harrives (.containerRestart ?_ (by decide)),
    harrives (.containerRemove (entered_iff.mpr (by decide)) (by decide)
      (formValueBool_eq.mp (by decide)) (formValueBool_eq.mp (by decide)))⟩
  · exact {
      name := entered_iff.mpr (by decide)
      memoryMB := numberEntered_iff.mpr (by decide +kernel)
      vcpus := numberEntered_iff.mpr (by decide +kernel)
      diskPool := entered_iff.mpr (by decide)
      diskName := entered_iff.mpr (by decide)
      diskSizeGB := numberEntered_iff.mpr (by decide +kernel)
      network := entered_iff.mpr (by decide)
      isoPath := entered_iff.mpr (by decide)
      autostart := formValueBool_eq.mp (by decide)
      start := formValueBool_eq.mp (by decide) }
  · exact {
      image := entered_iff.mpr (by decide)
      name := entered_iff.mpr (by decide)
      command := entered_iff.mpr (by decide)
      entrypoint := entered_iff.mpr (by decide)
      workingDir := entered_iff.mpr (by decide)
      env := listEntered_iff.mpr (by decide +kernel)
      ports := listEntered_iff.mpr (by decide +kernel)
      publishAll := formValueBool_eq.mp (by decide)
      autoRemove := formValueBool_eq.mp (by decide)
      restartPolicy := entered_iff.mpr (by decide)
      start := formValueBool_eq.mp (by decide) }
  · have hstop : formTimeout (stopForm "+30") = some 30 := by decide
    exact ⟨entered_iff.mpr (by decide), fun _ => by rw [← timeoutEntered_iff, hstop]⟩
  · have hstop : formTimeout (stopForm "-1") = none := by decide
    exact ⟨entered_iff.mpr (by decide), fun _ => by rw [← timeoutEntered_iff, hstop]⟩

end Centralisd
