import Centralisd.Slave.Handlers
import Centralisd.Slave.Host

/-!
# Centralisd — the slave as a process

The command handlers of `src/slave/handlers` and `Connect` of
`src/slave/slave.go` from the accepted handshake on, with the pointers they
use and everything they call (`Slave/Host`). The handlers are the entries of
`commandHandlers`; what `handleNodeCommand` does before and after them is in
`Slave/Handlers`.

`Connect` reads packets until it returns. What `ReadPacket` returns is an
input; an error ends the loop.
-/

namespace Centralisd.Slave.Process

open Runtime

variable {σ : Type} (H : Host interface σ)

/-- `json.Unmarshal` of `cmd.Params`, with the error a handler returns
instead. -/
def unmarshalParams {T : Type} (unmarshal : Json → Option T) (invalid : String)
    (cmd : NodeCommand) : Go σ T :=
  match cmd.params.bind unmarshal with
  | none => fail invalid
  | some params => pure params

/-! ## libvirt -/

def handleLibvirtDomainsList : Go σ Json := do
  let qemu ← getQEMU H
  let domains ← getDomains H qemu
  let items ← domains.mapM fun d => deferCall H (.free .domain d) (describeDomain H (some d))
  pure (.arr (items.map fun item => item.1.marshal))

def handleLibvirtStoragePoolsList : Go σ Json := do
  let qemu ← getQEMU H
  let pools ← listStoragePools H qemu
  pure (.arr (pools.map LibvirtStoragePool.marshal))

def handleLibvirtNetworksList : Go σ Json := do
  let qemu ← getQEMU H
  let networks ← listNetworks H qemu
  pure (.arr (networks.map LibvirtNetwork.marshal))

/-- `vol.Free()` when the function returns, if there is a volume. -/
def deferFree {α : Type} (vol : Option (Ref .volume)) (m : Go σ α) : Go σ α :=
  match vol with
  | none => m
  | some vol => deferCall H (.free .volume vol) m

/-- `LibvirtVMCreateResult`. -/
def createResult (name uuid volumeName diskPath : String) : Json :=
  .obj ([("name", .str name)] ++ Json.omitEmpty "uuid" uuid ++
    Json.omitEmpty "disk_volume" volumeName ++ Json.omitEmpty "disk_path" diskPath)

def handleLibvirtVMCreate (cmd : NodeCommand) : Go σ Json := do
  let params ← unmarshalParams LibvirtVMCreateParams.unmarshal "invalid vm create params" cmd
  let params := namedParams params
  refuseIf (params.name = "") "vm name is required"
  let qemu ← getQEMU H
  let (vol, diskPath) ← createDiskVolume H qemu params.diskPool params.diskName params.diskSizeGB
  deferFree H vol do
    let qemu ← deref qemu
    let domain ← call H (.domainDefineXML qemu (buildDomainXML params diskPath))
    deferCall H (.free .domain domain) do
      doIf params.autostart (call H (.domainOp domain (.setAutostart true)))
      doIf params.start (call H (.domainOp domain .create))
      let uuid ← valueOr H (.getUUIDString .domain domain) ""
      match vol with
      | none => pure (createResult params.name uuid "" diskPath)
      | some vol => do
        let volumeName ← valueOr H (.getName .volume vol) ""
        pure (createResult params.name uuid volumeName diskPath)

/-- What the handlers of one domain do: it is looked up, and freed in the
end. -/
def withDomain {α : Type} (name : String)
    (body : Option (Ref .connect) → Ref .domain → Go σ α) : Go σ α := do
  let qemu ← getQEMU H
  let domain ← lookupDomainByName H qemu name
  let domain ← deref domain
  deferCall H (.free .domain domain) (body qemu domain)

def handleDomainAction (cmd : NodeCommand) (action : DomainOp) : Go σ Json := do
  let params ← unmarshalParams LibvirtVMActionParams.unmarshal "invalid vm action params" cmd
  withDomain H params.name fun _ domain => do
    call H (.domainOp domain action)
    pure statusOK

def handleLibvirtVMStart (cmd : NodeCommand) : Go σ Json := handleDomainAction H cmd .create

def handleLibvirtVMShutdown (cmd : NodeCommand) : Go σ Json := handleDomainAction H cmd .shutdown

def handleLibvirtVMReboot (cmd : NodeCommand) : Go σ Json := handleDomainAction H cmd .reboot

def handleLibvirtVMDestroy (cmd : NodeCommand) : Go σ Json := handleDomainAction H cmd .destroy

def handleLibvirtVMSetAutostart (cmd : NodeCommand) : Go σ Json := do
  let params ← unmarshalParams LibvirtVMSetAutostartParams.unmarshal "invalid vm autostart params"
    cmd
  withDomain H params.name fun _ domain => do
    call H (.domainOp domain (.setAutostart params.enabled))
    pure (.obj [("enabled", .bool params.enabled)])

def handleLibvirtVMAttachISO (cmd : NodeCommand) : Go σ Json := do
  let params ← unmarshalParams LibvirtVMAttachISOParams.unmarshal "invalid vm iso params" cmd
  let name := trimSpace params.name
  let isoPath := trimSpace params.isoPath
  refuseIf (name = "" ∨ isoPath = "") "vm name and iso path are required"
  withDomain H name fun _ domain => do
    let active ← valueOr H (.isActive .domain domain) false
    call H (.domainOp domain (.updateDeviceFlags (buildCDROMDeviceXML isoPath) active))
    pure (.obj [("iso_path", .str isoPath)])

def handleLibvirtVMDetachISO (cmd : NodeCommand) : Go σ Json := do
  let params ← unmarshalParams LibvirtVMActionParams.unmarshal "invalid vm detach iso params" cmd
  withDomain H params.name fun _ domain => do
    let active ← valueOr H (.isActive .domain domain) false
    call H (.domainOp domain (.updateDeviceFlags (buildCDROMDeviceXML "") active))
    pure statusOK

def handleLibvirtVMDelete (cmd : NodeCommand) : Go σ Json := do
  let params ← unmarshalParams LibvirtVMDeleteParams.unmarshal "invalid vm delete params" cmd
  withDomain H params.name fun qemu domain => do
    let (_, diskPaths) ← describeDomain H (some domain)
    let active ← valueOr H (.isActive .domain domain) false
    doIf active do
      refuseIf (params.forceStop = false) "domain is running; force stop first"
      call H (.domainOp domain .destroy)
    call H (.domainOp domain .undefineFlags)
    doIf params.removeVolumes (deleteDomainVolumes H qemu diskPaths)
    pure (.obj [("removed_volumes", .bool params.removeVolumes)])

/-! ## docker -/

def handleDockerContainersList : Go σ Json := do
  let cli ← getClient H
  let cli ← deref cli
  let containers ← call H (.containerList cli)
  pure (.arr (List.map DockerContainer.marshal containers))

def handleDockerImagesList : Go σ Json := do
  let cli ← getClient H
  let cli ← deref cli
  let images ← call H (.imageList cli)
  pure (.arr (List.map DockerImage.marshal images))

def handleDockerImagePull (cmd : NodeCommand) : Go σ Json := do
  let params ← unmarshalParams DockerImagePullParams.unmarshal "invalid image pull params" cmd
  refuseIf (trimSpace params.image = "") "image is required"
  let cli ← getClient H
  let cli ← deref cli
  let resp ← call H (.imagePull cli (trimSpace params.image))
  deferCall H (.free .pull resp) do
    call H (.wait resp)
    pure statusOK

def handleDockerImageRemove (cmd : NodeCommand) : Go σ Json := do
  let params ← unmarshalParams DockerImageRemoveParams.unmarshal "invalid image remove params" cmd
  refuseIf (trimSpace params.image = "") "image is required"
  let cli ← getClient H
  let cli ← deref cli
  let items ← call H (.imageRemove cli (trimSpace params.image) params.force params.pruneChildren)
  let items : List (String × String) := items
  pure (.obj (Json.omitNil "deleted" ((items.map Prod.fst).filter (· ≠ "")) ++
    Json.omitNil "untagged" ((items.map Prod.snd).filter (· ≠ ""))))

def handleDockerContainerCreate (moby : Moby) (cmd : NodeCommand) : Go σ Json := do
  let params ← unmarshalParams DockerContainerCreateParams.unmarshal
    "invalid container create params" cmd
  refuseIf (trimSpace params.image = "") "image is required"
  let cli ← getClient H
  match parsePorts moby params.ports with
  | .error err => fail err
  | .ok ports => match checkRestartPolicy moby params.restartPolicy with
    | some err => fail err
    | none => do
      let cli ← deref cli
      let res ← call H (.containerCreate cli (containerOptions params ports))
      let res : String × List String := res
      doIf params.start (call H (.containerStart cli res.1))
      pure (.obj ([("id", .str res.1)] ++ Json.omitNil "warnings" res.2))

/-- What the handlers of one container do. -/
def containerAction (id : String) (action : Ref .client → Go σ Unit) : Go σ Json := do
  refuseIf (trimSpace id = "") "id is required"
  let cli ← getClient H
  let cli ← deref cli
  action cli
  pure statusOK

def handleDockerContainerStart (cmd : NodeCommand) : Go σ Json := do
  let params ← unmarshalParams DockerContainerStartParams.unmarshal
    "invalid container start params" cmd
  containerAction H params.id fun cli => call H (.containerStart cli params.id)

def handleDockerContainerStop (cmd : NodeCommand) : Go σ Json := do
  let params ← unmarshalParams DockerContainerStopParams.unmarshal
    "invalid container stop params" cmd
  containerAction H params.id fun cli => call H (.containerStop cli params.id params.timeoutSeconds)

def handleDockerContainerRestart (cmd : NodeCommand) : Go σ Json := do
  let params ← unmarshalParams DockerContainerStopParams.unmarshal
    "invalid container restart params" cmd
  containerAction H params.id fun cli =>
    call H (.containerRestart cli params.id params.timeoutSeconds)

def handleDockerContainerRemove (cmd : NodeCommand) : Go σ Json := do
  let params ← unmarshalParams DockerContainerRemoveParams.unmarshal
    "invalid container remove params" cmd
  containerAction H params.id fun cli =>
    call H (.containerRemove cli params.id params.force params.removeVolumes)

/-! ## The tables -/

/-- `commandHandlers`. A handler without output returns an empty message. -/
def runCommand (moby : Moby) (action : String) (cmd : NodeCommand) : Go σ RawMessage :=
  match action with
  | "docker.containers.list" => some <$> handleDockerContainersList H
  | "docker.images.list" => some <$> handleDockerImagesList H
  | "docker.image.pull" => some <$> handleDockerImagePull H cmd
  | "docker.image.remove" => some <$> handleDockerImageRemove H cmd
  | "docker.container.create" => some <$> handleDockerContainerCreate H moby cmd
  | "docker.container.start" => some <$> handleDockerContainerStart H cmd
  | "docker.container.stop" => some <$> handleDockerContainerStop H cmd
  | "docker.container.restart" => some <$> handleDockerContainerRestart H cmd
  | "docker.container.remove" => some <$> handleDockerContainerRemove H cmd
  | "libvirt.domains.list" => some <$> handleLibvirtDomainsList H
  | "libvirt.storage.pools.list" => some <$> handleLibvirtStoragePoolsList H
  | "libvirt.networks.list" => some <$> handleLibvirtNetworksList H
  | "libvirt.domain.create" => some <$> handleLibvirtVMCreate H cmd
  | "libvirt.domain.start" => some <$> handleLibvirtVMStart H cmd
  | "libvirt.domain.shutdown" => some <$> handleLibvirtVMShutdown H cmd
  | "libvirt.domain.reboot" => some <$> handleLibvirtVMReboot H cmd
  | "libvirt.domain.destroy" => some <$> handleLibvirtVMDestroy H cmd
  | "libvirt.domain.delete" => some <$> handleLibvirtVMDelete H cmd
  | "libvirt.domain.autostart" => some <$> handleLibvirtVMSetAutostart H cmd
  | "libvirt.domain.iso.attach" => some <$> handleLibvirtVMAttachISO H cmd
  | "libvirt.domain.iso.detach" => some <$> handleLibvirtVMDetachISO H cmd
  -- `handleNoop`
  | _ => pure none

/-- `WritePacket` of a reply that could be built. -/
def writeReply (reply : Except String Packet) : Go σ Packet :=
  match reply with
  | .error err => fail err
  | .ok p => do
    call H (.writePacket p)
    pure p

/-- `json.Marshal` of a `Heartbeat`. -/
def marshalHeartbeat (cpuPercent ramPercent : Float64) (cpuCores : Int) (ramBytes : UInt64) :
    Option Json := do
  let cpu ← cpuPercent.json
  let ram ← ramPercent.json
  pure (.obj [("usage", .obj [("cpu_percent", cpu), ("ram_percent", ram)]),
    ("hardware", .obj [("cpu_cores", .num cpuCores 0), ("ram_bytes", Json.ofUint ramBytes)])])

def handleHeartbeat (packet : Packet) : Go σ Packet := do
  let hw ← getHardwareInfo H
  let ram ← deref hw.ram
  match marshalHeartbeat hw.cpu ram.usedPercent hw.cpuCores ram.total with
  | none => fail "json: unsupported value"
  | some heartbeat => writeReply H (Slave.handleHeartbeat packet heartbeat)

def handleNodeCommand (moby : Moby) (packet : Packet) : Go σ Packet :=
  match commandHandler packet with
  | .error reply => writeReply H (writeCommandReply packet.id reply)
  | .ok (action, cmd) => do
    let output ← catchError (runCommand H moby action cmd)
    writeReply H (writeCommandReply packet.id (handlerReply output))

/-! ## `Connect` -/

/-- The list of networks that `Connect` prints. The error of `GetQEMU` is
overwritten, and that of `ListNetworks` is not read. -/
def printNetworks : Go σ Unit := do
  let qemu ← catchError (getQEMU H)
  let qemu ← deref qemu.toOption.join
  let _ ← valueOr H (.listNetworks qemu) []
  pure ()

/-- What `Connect` does before its loop; the error of the firewall is
logged. -/
def setup (master : String) : Go σ (Except String Unit) := do
  let err ← catchError (setupFirewall H master)
  printNetworks H
  pure err

/-- How the handling of a packet ends. -/
inductive Ending where
  | replied (reply : Packet)
  /-- an unexpected type is logged -/
  | ignored
  /-- `Connect` logs the error and returns -/
  | returned (err : String)
  | panicked (p : Panic)

def runHandler (moby : Moby) (packet : Packet) : PacketHandler → Go σ Packet
  | .handleHeartbeat => handleHeartbeat H packet
  | .handleNodeCommand => handleNodeCommand H moby packet

/-- One iteration of the loop. -/
def serve (moby : Moby) (read : Except String Packet) : Go σ Ending :=
  match read with
  | .error err => pure (.returned err)
  | .ok packet => match packetHandlers packet.type with
    | none => pure .ignored
    | some handler => do
      match ← catchError (runHandler H moby packet handler) with
      | .error err => pure (.returned err)
      | .ok reply => pure (.replied reply)

/-- An iteration with the calls made in it. -/
structure Served where
  read : Except String Packet
  events : List (Event interface)
  ending : Ending

/-- The loop, on what `ReadPacket` returns. -/
def packetLoop (moby : Moby) (w : World interface σ Globals) :
    List (Except String Packet) → List Served
  | [] => []
  | read :: reads => match serve H moby read { w with events := [] } with
    | .error (.panic p) w' => [⟨read, w'.events, .panicked p⟩]
    | .error (.error err) w' => [⟨read, w'.events, .returned err⟩]
    | .ok (.returned err) w' => [⟨read, w'.events, .returned err⟩]
    | .ok ending w' => ⟨read, w'.events, ending⟩ :: packetLoop moby w' reads

/-- A run of `Connect` after the handshake. -/
structure ConnectRun where
  setup : List (Event interface)
  /-- the panic in which it ended before the loop -/
  panic : Option Panic
  /-- the error of the firewall, which is logged -/
  firewall : Except String Unit
  served : List Served

def connect (moby : Moby) (s : σ) (master : String) (reads : List (Except String Packet)) :
    ConnectRun :=
  match setup H master { host := s, globals := {} } with
  | .ok firewall w => ⟨w.events, none, firewall, packetLoop H moby w reads⟩
  | .error (.panic p) w => ⟨w.events, some p, .ok (), []⟩
  | .error (.error err) w => ⟨w.events, none, .error err, []⟩

end Centralisd.Slave.Process
