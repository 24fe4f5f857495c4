import Centralisd.Lib.Footprint
import Centralisd.Slave.Process

/-!
# Centralisd — what a command may change on its host

Most of what the slave calls only looks: it lists, describes and frees.
`Call.changes` picks out the calls that do not, and `Asked` says for each
command which of them it may make, on which objects and with which
arguments, and which checks the parameters have passed. A domain is changed
only after it was looked up under the name in the parameters, and a volume is
deleted only if the command asks for that, its domain has been undefined and
the domain's description has its path.

`changes_asked` is about whole runs of `Connect`, on any host and for any
packets: every call in its loop that changes something was asked for by the
command that is being handled. So heartbeats, listings and commands that are
refused change nothing.
-/

namespace Centralisd.Slave.Process

open Runtime

variable {σ : Type} {H : Host interface σ}

/-- The calls that change something on the host. -/
def Call.changes : Call → Bool
  | .flush _ _ | .domainDefineXML _ _ | .storageVolCreateXML _ _ | .domainOp _ _ | .delete _
  | .imagePull _ _ | .imageRemove _ _ _ _ | .containerCreate _ _ | .containerStart _ _
  | .containerStop _ _ _ | .containerRestart _ _ _ | .containerRemove _ _ _ _ => true
  | _ => false

section
variable (moby : Moby) (cmd : NodeCommand) (before : List (Event interface))

/-- The parameters of the command, as its handler decodes them. -/
def Decoded {T : Type} (unmarshal : Json → Option T) (params : T) : Prop :=
  cmd.params.bind unmarshal = some params

/-- The answer of the lookup of a domain under the name. -/
abbrev foundBy (conn : Ref .connect) (name : String) (d : Ref .domain) : Event interface :=
  ⟨.lookup .domain conn (trimSpace name), .ok d, false⟩

/-- The domain was looked up under the name, which is not blank. -/
def Found (name : String) (d : Ref .domain) : Prop :=
  trimSpace name ≠ "" ∧ ∃ conn, foundBy conn name d ∈ before

/-- The domain was defined for the parameters, on the volume created for
them. -/
def Defined (params : LibvirtVMCreateParams) (d : Ref .domain) : Prop :=
  ∃ conn diskPath, ⟨.domainDefineXML conn (buildDomainXML params diskPath), .ok d, false⟩ ∈ before

/-- The domain is not known to run, or may be stopped by force. -/
def Stopped (forceStop : Bool) (d : Ref .domain) : Prop :=
  forceStop = true ∨ ∃ active : Except String Bool, active ≠ .ok true ∧
    ⟨.isActive .domain d, active, true⟩ ∈ before

/-- The actions that do one thing to a domain. -/
def domainActions : List (String × DomainOp) :=
  [("libvirt.domain.start", .create), ("libvirt.domain.shutdown", .shutdown),
    ("libvirt.domain.reboot", .reboot), ("libvirt.domain.destroy", .destroy)]

/-- The changes that a command asks for, after the calls before, with the
checks of its handler. -/
inductive Asked : String → Call → Prop
  | imagePull {params : DockerImagePullParams} {cli : Ref .client}
      (h : Decoded cmd DockerImagePullParams.unmarshal params)
      (himage : trimSpace params.image ≠ "") :
      Asked "docker.image.pull" (.imagePull cli (trimSpace params.image))
  | imageRemove {params : DockerImageRemoveParams} {cli : Ref .client}
      (h : Decoded cmd DockerImageRemoveParams.unmarshal params)
      (himage : trimSpace params.image ≠ "") :
      Asked "docker.image.remove"
        (.imageRemove cli (trimSpace params.image) params.force params.pruneChildren)
  | containerCreate {params : DockerContainerCreateParams} {ports : List String} {cli : Ref .client}
      (h : Decoded cmd DockerContainerCreateParams.unmarshal params)
      (himage : trimSpace params.image ≠ "") (hports : parsePorts moby params.ports = .ok ports)
      (hpolicy : checkRestartPolicy moby params.restartPolicy = none) :
      Asked "docker.container.create" (.containerCreate cli (containerOptions params ports))
  | containerStartCreated {params : DockerContainerCreateParams} {ports : List String}
      {cli : Ref .client} {id : String} {warnings : List String}
      (h : Decoded cmd DockerContainerCreateParams.unmarshal params)
      (himage : trimSpace params.image ≠ "") (hports : parsePorts moby params.ports = .ok ports)
      (hpolicy : checkRestartPolicy moby params.restartPolicy = none)
      (hstart : params.start = true)
      (hcreated : ⟨.containerCreate cli (containerOptions params ports), .ok (id, warnings),
        false⟩ ∈ before) :
      Asked "docker.container.create" (.containerStart cli id)
  | containerStart {params : DockerContainerStartParams} {cli : Ref .client}
      (h : Decoded cmd DockerContainerStartParams.unmarshal params)
      (hid : trimSpace params.id ≠ "") :
      Asked "docker.container.start" (.containerStart cli params.id)
  | containerStop {params : DockerContainerStopParams} {cli : Ref .client}
      (h : Decoded cmd DockerContainerStopParams.unmarshal params)
      (hid : trimSpace params.id ≠ "") :
      Asked "docker.container.stop" (.containerStop cli params.id params.timeoutSeconds)
  | containerRestart {params : DockerContainerStopParams} {cli : Ref .client}
      (h : Decoded cmd DockerContainerStopParams.unmarshal params)
      (hid : trimSpace params.id ≠ "") :
      Asked "docker.container.restart" (.containerRestart cli params.id params.timeoutSeconds)
  | containerRemove {params : DockerContainerRemoveParams} {cli : Ref .client}
      (h : Decoded cmd DockerContainerRemoveParams.unmarshal params)
      (hid : trimSpace params.id ≠ "") :
      Asked "docker.container.remove"
        (.containerRemove cli params.id params.force params.removeVolumes)
  | volumeCreate {params : LibvirtVMCreateParams} {conn : Ref .connect} {pool : Ref .pool}
      (h : Decoded cmd LibvirtVMCreateParams.unmarshal params)
      (hname : (namedParams params).name ≠ "")
      (hdisk : trimSpace (namedParams params).diskName ≠ "")
      (hpool : ⟨.lookup .pool conn (poolOrDefault params.diskPool), .ok pool, false⟩ ∈ before) :
      Asked "libvirt.domain.create" (.storageVolCreateXML pool
        (volumeXML (namedParams params).diskName params.diskSizeGB))
  | domainDefine {params : LibvirtVMCreateParams} {conn : Ref .connect} {pool : Ref .pool}
      {vol : Ref .volume} {diskPath : String}
      (h : Decoded cmd LibvirtVMCreateParams.unmarshal params)
      (hname : (namedParams params).name ≠ "")
      (hvol : ⟨.storageVolCreateXML pool
        (volumeXML (namedParams params).diskName params.diskSizeGB), .ok vol, false⟩ ∈ before)
      (hpath : ⟨.getPath vol, .ok diskPath, false⟩ ∈ before) :
      Asked "libvirt.domain.create" (.domainDefineXML conn
        (buildDomainXML (namedParams params) diskPath))
  | createAutostart {params : LibvirtVMCreateParams} {d : Ref .domain}
      (h : Decoded cmd LibvirtVMCreateParams.unmarshal params)
      (hname : (namedParams params).name ≠ "")
      (hautostart : params.autostart = true) (hd : Defined before (namedParams params) d) :
      Asked "libvirt.domain.create" (.domainOp d (.setAutostart true))
  | createStart {params : LibvirtVMCreateParams} {d : Ref .domain}
      (h : Decoded cmd LibvirtVMCreateParams.unmarshal params)
      (hname : (namedParams params).name ≠ "")
      (hstart : params.start = true) (hd : Defined before (namedParams params) d) :
      Asked "libvirt.domain.create" (.domainOp d .create)
  | domainAction {action : String} {op : DomainOp} {params : LibvirtVMActionParams}
      {d : Ref .domain} (haction : (action, op) ∈ domainActions)
      (h : Decoded cmd LibvirtVMActionParams.unmarshal params)
      (hd : Found before params.name d) :
      Asked action (.domainOp d op)
  | setAutostart {params : LibvirtVMSetAutostartParams} {d : Ref .domain}
      (h : Decoded cmd LibvirtVMSetAutostartParams.unmarshal params)
      (hd : Found before params.name d) :
      Asked "libvirt.domain.autostart" (.domainOp d (.setAutostart params.enabled))
  | attachISO {params : LibvirtVMAttachISOParams} {d : Ref .domain} {live : Bool}
      (h : Decoded cmd LibvirtVMAttachISOParams.unmarshal params)
      (hiso : trimSpace params.isoPath ≠ "") (hd : Found before params.name d) :
      Asked "libvirt.domain.iso.attach"
        (.domainOp d (.updateDeviceFlags (buildCDROMDeviceXML (trimSpace params.isoPath)) live))
  | detachISO {params : LibvirtVMActionParams} {d : Ref .domain} {live : Bool}
      (h : Decoded cmd LibvirtVMActionParams.unmarshal params)
      (hd : Found before params.name d) :
      Asked "libvirt.domain.iso.detach"
        (.domainOp d (.updateDeviceFlags (buildCDROMDeviceXML "") live))
  | deleteDestroy {params : LibvirtVMDeleteParams} {d : Ref .domain}
      (h : Decoded cmd LibvirtVMDeleteParams.unmarshal params) (hforce : params.forceStop = true)
      (hd : Found before params.name d)
      (hactive : ⟨.isActive .domain d, .ok true, true⟩ ∈ before) :
      Asked "libvirt.domain.delete" (.domainOp d .destroy)
  | deleteUndefine {params : LibvirtVMDeleteParams} {d : Ref .domain}
      (h : Decoded cmd LibvirtVMDeleteParams.unmarshal params)
      (hd : Found before params.name d) (hstopped : Stopped before params.forceStop d) :
      Asked "libvirt.domain.delete" (.domainOp d .undefineFlags)
  | deleteVolume {params : LibvirtVMDeleteParams} {d : Ref .domain} {xml path : String}
      {conn : Ref .connect} {vol : Ref .volume}
      (h : Decoded cmd LibvirtVMDeleteParams.unmarshal params)
      (hremove : params.removeVolumes = true) (hd : Found before params.name d)
      (hundefined : ⟨.domainOp d .undefineFlags, .ok (), false⟩ ∈ before)
      (hxml : ⟨.getXMLDesc .domain d, .ok xml, true⟩ ∈ before)
      (hpath : path ∈ (describedDisks xml).2)
      (hvol : ⟨.lookup .volume conn (trimSpace path), .ok vol, true⟩ ∈ before) :
      Asked "libvirt.domain.delete" (.delete vol)

end

/-- The rule for an iteration that handles the command. -/
def Rule (moby : Moby) (action : String) (cmd : NodeCommand) (before : List (Event interface))
    (e : Event interface) : Prop :=
  e.call.changes = true → Asked moby cmd before action e.call

/-- A rule that allows every call that changes nothing. -/
structure Lenient (rule : List (Event interface) → Event interface → Prop) : Prop where
  looks : ∀ before e, e.call.changes = false → rule before e

theorem Rule.lenient (moby : Moby) (action : String) (cmd : NodeCommand) :
    Lenient (Rule moby action cmd) where
  looks before e h hchanges := by
    rw [h] at hchanges
    cases hchanges

/-! ## Functions that only look -/

section
variable {α : Type} {rule : List (Event interface) → Event interface → Prop}
  {E : List (Event interface)} {Q : α → List (Event interface) → Prop}

theorem Lenient.allows (hrule : Lenient rule) {c : Call} {tolerated : Bool}
    (h : c.changes = false) (before : List (Event interface))
    (answer : Except String (interface.Val c)) (_ : E ⊆ before) :
    rule before ⟨c, answer, tolerated⟩ :=
  hrule.looks before ⟨c, answer, tolerated⟩ h

variable (hrule : Lenient rule)
include hrule

theorem getQEMU_confined {f : Option (Ref .connect) → Go σ α}
    (h : ∀ conn, Confined H rule E (f (some conn)) Q) : Confined H rule E (getQEMU H >>= f) Q := by
  refine .bind (Q := fun p _ => ∃ conn, p = some conn) (.read fun w => ?_) ?_
  · cases w.globals.conn with
    | some conn => exact .pure (List.nil_subset _) ⟨conn, rfl⟩
    | none =>
      refine .callThen (hrule.allows rfl) fun conn => .assign ?_
      exact .pure (List.nil_subset _) ⟨conn, rfl⟩
  · rintro _ E' ⟨conn, rfl⟩
    exact (h conn).of_subset (List.subset_append_right _ _)

theorem getClient_confined {f : Option (Ref .client) → Go σ α}
    (h : ∀ cli, Confined H rule E (f (some cli)) Q) : Confined H rule E (getClient H >>= f) Q := by
  refine .bind (Q := fun p _ => ∃ cli, p = some cli) (.read fun w => ?_) ?_
  · cases w.globals.client with
    | some cli => exact .pure (List.nil_subset _) ⟨cli, rfl⟩
    | none =>
      refine .callThen (hrule.allows rfl) fun cli => .assign ?_
      exact .pure (List.nil_subset _) ⟨cli, rfl⟩
  · rintro _ E' ⟨cli, rfl⟩
    exact (h cli).of_subset (List.subset_append_right _ _)

omit hrule in
theorem connected_confined {conn : Ref .connect} {f : Ref .connect → Go σ α}
    (h : Confined H rule E (f conn) Q) : Confined H rule E (connected (some conn) >>= f) Q := by
  refine .bind (Q := fun c _ => c = conn) (.refuseIf fun _ => ?_) ?_
  · exact .pure (List.nil_subset _) rfl
  · rintro _ E' rfl
    exact h.of_subset (List.subset_append_right _ _)

/-- The disk paths come from the description of the domain. -/
theorem describeDomain_confined (d : Ref .domain) :
    Confined H rule E (describeDomain H (some d)) (fun out E' => ∀ path ∈ out.2, ∃ xml,
      ⟨.getXMLDesc .domain d, .ok xml, true⟩ ∈ E' ∧ path ∈ (describedDisks xml).2) := by
  unfold describeDomain
  refine .refuseIf fun _ => .deref ?_
  refine .callThen (hrule.allows rfl) fun name => ?_
  refine .look (hrule.allows rfl) fun uuid => ?_
  refine .look (hrule.allows rfl) fun id => ?_
  refine .look (hrule.allows rfl) fun active => ?_
  refine .look (hrule.allows rfl) fun persistent => ?_
  refine .look (hrule.allows rfl) fun autostart => ?_
  refine .pointer (hrule.allows rfl) fun info => ?_
  refine .valueOr (hrule.allows rfl) ?_ fun xmlDesc => ?_
  · -- without a description there are no paths
    have hnone : ∀ path ∈ (describedDisks "").2, ∃ xml,
        ⟨.getXMLDesc .domain d, .ok xml, true⟩ ∈ ([] : List (Event interface)) ∧
          path ∈ (describedDisks xml).2 := fun path hpath => absurd hpath List.not_mem_nil
    cases info with
    | none => exact .pure (List.nil_subset _) hnone
    | some info => exact .pure (List.nil_subset _) hnone
  · have hsome : ∀ path ∈ (describedDisks xmlDesc).2, ∃ xml,
        ⟨.getXMLDesc .domain d, .ok xml, true⟩ ∈
          [(⟨.getXMLDesc .domain d, .ok xmlDesc, true⟩ : Event interface)] ∧
          path ∈ (describedDisks xml).2 := fun path hpath => ⟨xmlDesc, .head _, hpath⟩
    cases info with
    | none => exact .pure (List.cons_subset_cons _ (List.nil_subset _)) hsome
    | some info => exact .pure (List.cons_subset_cons _ (List.nil_subset _)) hsome

theorem describeStorageVolume_confined (vol : Ref .volume) :
    Confined H rule E (describeStorageVolume H (some vol)) Bare := by
  unfold describeStorageVolume
  refine .refuseIf fun _ => .deref ?_
  refine .callThen (hrule.allows rfl) fun name => ?_
  refine .look (hrule.allows rfl) fun key => ?_
  refine .look (hrule.allows rfl) fun path => ?_
  refine .pointer (hrule.allows rfl) fun info => ?_
  refine .look (hrule.allows rfl) fun xmlDesc => ?_
  cases info with
  | none => exact .value
  | some info => exact .value

theorem describeStoragePool_confined (pool : Ref .pool) :
    Confined H rule E (describeStoragePool H (some pool)) Bare := by
  unfold describeStoragePool
  refine .refuseIf fun _ => .deref ?_
  refine .callThen (hrule.allows rfl) fun name => ?_
  refine .look (hrule.allows rfl) fun uuid => ?_
  refine .look (hrule.allows rfl) fun active => ?_
  refine .look (hrule.allows rfl) fun persistent => ?_
  refine .look (hrule.allows rfl) fun autostart => ?_
  refine .pointer (hrule.allows rfl) fun info => ?_
  refine .callThen (hrule.allows rfl) fun vols => ?_
  refine .next (.mapM fun vol _ => ?_) fun volumes => ?_
  · exact .deferCall (hrule.allows rfl) (describeStorageVolume_confined hrule vol)
  · cases info with
    | none => exact .value
    | some info => exact .value

theorem describeNetwork_confined (net : Ref .network) :
    Confined H rule E (describeNetwork H net) Bare := by
  unfold describeNetwork
  refine .look (hrule.allows rfl) fun name => ?_
  refine .look (hrule.allows rfl) fun uuid => ?_
  refine .look (hrule.allows rfl) fun active => ?_
  refine .look (hrule.allows rfl) fun persistent => ?_
  refine .look (hrule.allows rfl) fun autostart => ?_
  exact .look (hrule.allows rfl) fun _ => .value

theorem handleLibvirtDomainsList_confined : Confined H rule E (handleLibvirtDomainsList H) Bare := by
  refine getQEMU_confined hrule fun conn => ?_
  refine .next (.deref (.call (hrule.allows rfl))) fun domains => ?_
  refine .next (.mapM fun d _ => ?_) fun _ => .value
  refine .deferCall (hrule.allows rfl) ?_
  exact (describeDomain_confined hrule d).weaken fun _ _ _ => trivial

theorem handleLibvirtStoragePoolsList_confined :
    Confined H rule E (handleLibvirtStoragePoolsList H) Bare := by
  refine getQEMU_confined hrule fun conn => .next (Q := Bare) ?_ fun _ => .value
  unfold listStoragePools
  refine connected_confined (.callThen (hrule.allows rfl) fun pools => .mapM fun pool _ => ?_)
  exact .deferCall (hrule.allows rfl) (describeStoragePool_confined hrule pool)

theorem handleLibvirtNetworksList_confined :
    Confined H rule E (handleLibvirtNetworksList H) Bare := by
  refine getQEMU_confined hrule fun conn => .next (Q := Bare) ?_ fun _ => .value
  unfold listNetworks
  refine connected_confined (.callThen (hrule.allows rfl) fun nets => .mapM fun net _ => ?_)
  exact describeNetwork_confined hrule net

theorem handleDockerContainersList_confined :
    Confined H rule E (handleDockerContainersList H) Bare :=
  getClient_confined hrule fun _ => .deref (.callThen (hrule.allows rfl) fun _ => .value)

theorem handleDockerImagesList_confined : Confined H rule E (handleDockerImagesList H) Bare :=
  getClient_confined hrule fun _ => .deref (.callThen (hrule.allows rfl) fun _ => .value)

omit hrule in
/-- The handler runs with the parameters it has decoded. -/
theorem unmarshalParams_confined {T : Type} {unmarshal : Json → Option T} {invalid : String}
    {cmd : NodeCommand} {f : T → Go σ α}
    (h : ∀ params, Decoded cmd unmarshal params → Confined H rule E (f params) Q) :
    Confined H rule E (unmarshalParams unmarshal invalid cmd >>= f) Q := by
  unfold unmarshalParams
  cases hparams : cmd.params.bind unmarshal with
  | none => exact .bind (Q := fun _ _ => False) .stop fun _ _ hfalse => hfalse.elim
  | some params => exact h params hparams

/-- The body of a handler runs on a domain that was found. -/
theorem withDomain_confined {name : String} {body : Option (Ref .connect) → Ref .domain → Go σ α}
    (h : trimSpace name ≠ "" → ∀ conn d,
      Confined H rule (foundBy conn name d :: E) (body (some conn) d) Q) :
    Confined H rule E (withDomain H name body) Q := by
  unfold withDomain
  refine getQEMU_confined hrule fun conn => ?_
  refine .bind (Q := fun p E' => trimSpace name ≠ "" ∧
    ∃ d, p = some d ∧ E' = [foundBy conn name d]) ?_ ?_
  · unfold lookupDomainByName
    refine connected_confined (.refuseIf fun hname => .callThen (hrule.allows rfl) fun d => ?_)
    exact .pure (List.cons_subset_cons _ (List.nil_subset _)) ⟨hname, d, rfl, rfl⟩
  · rintro _ _ ⟨hname, d, rfl, rfl⟩
    exact .deref (.deferCall (hrule.allows rfl) (h hname conn d))

end

/-! ## Commands -/

section
variable {moby : Moby} {cmd : NodeCommand}

theorem handleDockerImagePull_confined :
    Confined H (Rule moby "docker.image.pull" cmd) [] (handleDockerImagePull H cmd) Bare := by
  have hrule := Rule.lenient moby "docker.image.pull" cmd
  refine unmarshalParams_confined fun params hparams => .refuseIf fun himage => ?_
  refine getClient_confined hrule fun cli => .deref ?_
  refine .callThen (fun _ _ _ _ => .imagePull hparams himage) fun resp => ?_
  exact .deferCall (hrule.allows rfl) (.callThen (hrule.allows rfl) fun _ => .value)

theorem handleDockerImageRemove_confined :
    Confined H (Rule moby "docker.image.remove" cmd) [] (handleDockerImageRemove H cmd) Bare := by
  refine unmarshalParams_confined fun params hparams => .refuseIf fun himage => ?_
  refine getClient_confined (Rule.lenient _ _ _) fun cli => .deref ?_
  exact .callThen (fun _ _ _ _ => .imageRemove hparams himage) fun items => .value

theorem handleDockerContainerCreate_confined :
    Confined H (Rule moby "docker.container.create" cmd) []
      (handleDockerContainerCreate H moby cmd) Bare := by
  refine unmarshalParams_confined fun params hparams => .refuseIf fun himage => ?_
  refine getClient_confined (Rule.lenient _ _ _) fun cli => ?_
  split
  · exact .stop
  · next ports hports =>
    split
    · exact .stop
    · next hpolicy =>
      refine .deref (.callThen (fun _ _ _ _ => ?_) fun res => ?_)
      · exact .containerCreate hparams himage hports hpolicy
      refine .next (.doIf fun hstart => .call fun before _ hE _ => ?_) fun _ => .value
      -- the container that is started is the one that was created
      exact .containerStartCreated hparams himage hports hpolicy hstart (hE (.head _))

theorem containerAction_confined {action id : String} {body : Ref .client → Go σ Unit}
    (h : trimSpace id ≠ "" → ∀ cli, Confined H (Rule moby action cmd) [] (body cli) Bare) :
    Confined H (Rule moby action cmd) [] (containerAction H id body) Bare := by
  refine .refuseIf fun hid => getClient_confined (Rule.lenient _ _ _) fun cli => .deref ?_
  exact .next (h hid cli) fun _ => .value

theorem handleDockerContainerStart_confined :
    Confined H (Rule moby "docker.container.start" cmd) [] (handleDockerContainerStart H cmd) Bare :=
  unmarshalParams_confined fun _ hparams => containerAction_confined fun hid _ =>
    .call fun _ _ _ _ => .containerStart hparams hid

theorem handleDockerContainerStop_confined :
    Confined H (Rule moby "docker.container.stop" cmd) [] (handleDockerContainerStop H cmd) Bare :=
  unmarshalParams_confined fun _ hparams => containerAction_confined fun hid _ =>
    .call fun _ _ _ _ => .containerStop hparams hid

theorem handleDockerContainerRestart_confined :
    Confined H (Rule moby "docker.container.restart" cmd) []
      (handleDockerContainerRestart H cmd) Bare :=
  unmarshalParams_confined fun _ hparams => containerAction_confined fun hid _ =>
    .call fun _ _ _ _ => .containerRestart hparams hid

theorem handleDockerContainerRemove_confined :
    Confined H (Rule moby "docker.container.remove" cmd) []
      (handleDockerContainerRemove H cmd) Bare :=
  unmarshalParams_confined fun _ hparams => containerAction_confined fun hid _ =>
    .call fun _ _ _ _ => .containerRemove hparams hid

/-- The volume is created in the pool that was looked up, and its path is
read. -/
theorem createDiskVolume_confined {params : LibvirtVMCreateParams}
    (hparams : Decoded cmd LibvirtVMCreateParams.unmarshal params)
    (hname : (namedParams params).name ≠ "") (conn : Ref .connect) :
    Confined H (Rule moby "libvirt.domain.create" cmd) []
      (createDiskVolume H (some conn) params.diskPool (namedParams params).diskName
        params.diskSizeGB)
      (fun out E => ∃ pool vol, out.1 = some vol ∧
        E = [⟨.getPath vol, .ok out.2, false⟩, ⟨.storageVolCreateXML pool
          (volumeXML (namedParams params).diskName params.diskSizeGB), .ok vol, false⟩]) := by
  have hrule := Rule.lenient moby "libvirt.domain.create" cmd
  unfold createDiskVolume
  refine connected_confined (.refuseIf fun hdisk => ?_)
  refine .callThen (hrule.allows rfl) fun pool => .deferCall (hrule.allows rfl) ?_
  refine .callThen (fun _ _ hE _ => .volumeCreate hparams hname hdisk (hE (.head _))) fun vol => ?_
  refine .bind (.onError (hrule.allows rfl) (.answered (hrule.allows rfl))) ?_
  rintro path _ rfl
  refine .pure ?_ ⟨pool, vol, rfl, rfl⟩
  exact List.cons_subset_cons _ (List.cons_subset_cons _ (List.nil_subset _))

theorem handleLibvirtVMCreate_confined :
    Confined H (Rule moby "libvirt.domain.create" cmd) [] (handleLibvirtVMCreate H cmd) Bare := by
  have hrule := Rule.lenient moby "libvirt.domain.create" cmd
  refine unmarshalParams_confined fun params hparams => .refuseIf fun hname => ?_
  refine getQEMU_confined hrule fun conn => ?_
  refine .bind (createDiskVolume_confined hparams hname conn) ?_
  rintro ⟨_, diskPath⟩ _ ⟨pool, vol, rfl, rfl⟩
  refine .deferCall (hrule.allows rfl) (.deref ?_)
  refine .callThen (fun _ _ hE _ => ?_) fun domain => .deferCall (hrule.allows rfl) ?_
  · exact .domainDefine hparams hname (hE (.tail _ (.head _))) (hE (.head _))
  refine .next (.doIf fun hautostart => .call fun _ _ hE _ => ?_) fun _ => ?_
  · exact .createAutostart hparams hname hautostart ⟨conn, diskPath, hE (.head _)⟩
  refine .next (.doIf fun hstart => .call fun _ _ hE _ => ?_) fun _ => ?_
  · exact .createStart hparams hname hstart ⟨conn, diskPath, hE (.head _)⟩
  refine .look (hrule.allows rfl) fun uuid => ?_
  exact .look (hrule.allows rfl) fun volumeName => .value

theorem handleDomainAction_confined {action : String} {op : DomainOp}
    (haction : (action, op) ∈ domainActions) :
    Confined H (Rule moby action cmd) [] (handleDomainAction H cmd op) Bare := by
  refine unmarshalParams_confined fun params hparams => ?_
  refine withDomain_confined (Rule.lenient _ _ _) fun hname conn d => ?_
  exact .callThen (fun _ _ hE _ => .domainAction haction hparams ⟨hname, conn, hE (.head _)⟩)
    fun _ => .value

theorem handleLibvirtVMSetAutostart_confined :
    Confined H (Rule moby "libvirt.domain.autostart" cmd) []
      (handleLibvirtVMSetAutostart H cmd) Bare := by
  refine unmarshalParams_confined fun params hparams => ?_
  refine withDomain_confined (Rule.lenient _ _ _) fun hname conn d => ?_
  exact .callThen (fun _ _ hE _ => .setAutostart hparams ⟨hname, conn, hE (.head _)⟩)
    fun _ => .value

theorem handleLibvirtVMAttachISO_confined :
    Confined H (Rule moby "libvirt.domain.iso.attach" cmd) []
      (handleLibvirtVMAttachISO H cmd) Bare := by
  have hrule := Rule.lenient moby "libvirt.domain.iso.attach" cmd
  refine unmarshalParams_confined fun params hparams => .refuseIf fun hblank => ?_
  obtain ⟨hname, hiso⟩ := not_or.mp hblank
  refine withDomain_confined hrule fun _ conn d => .look (hrule.allows rfl) fun active => ?_
  refine .callThen (fun _ _ hE _ => .attachISO hparams hiso ⟨hname, conn, ?_⟩) fun _ => .value
  -- the name is trimmed once more when it is looked up
  have hfound := hE (.head _)
  rw [foundBy, trimSpace_idem] at hfound
  exact hfound

theorem handleLibvirtVMDetachISO_confined :
    Confined H (Rule moby "libvirt.domain.iso.detach" cmd) []
      (handleLibvirtVMDetachISO H cmd) Bare := by
  have hrule := Rule.lenient moby "libvirt.domain.iso.detach" cmd
  refine unmarshalParams_confined fun params hparams => ?_
  refine withDomain_confined hrule fun hname conn d => .look (hrule.allows rfl) fun active => ?_
  exact .callThen (fun _ _ hE _ => .detachISO hparams ⟨hname, conn, hE (.head _)⟩)
    fun _ => .value

/-- Only volumes that the domain's description has are deleted. -/
theorem deleteDomainVolumes_confined {params : LibvirtVMDeleteParams} {d : Ref .domain}
    {conn : Ref .connect} {diskPaths : List String} {E : List (Event interface)}
    (hparams : Decoded cmd LibvirtVMDeleteParams.unmarshal params)
    (hremove : params.removeVolumes = true) (hname : trimSpace params.name ≠ "")
    (hd : foundBy conn params.name d ∈ E)
    (hundefined : ⟨.domainOp d .undefineFlags, .ok (), false⟩ ∈ E)
    (hpaths : ∀ path ∈ diskPaths, ∃ xml,
      ⟨.getXMLDesc .domain d, .ok xml, true⟩ ∈ E ∧ path ∈ (describedDisks xml).2) :
    Confined H (Rule moby "libvirt.domain.delete" cmd) E
      (deleteDomainVolumes H (some conn) diskPaths) Bare := by
  have hrule := Rule.lenient moby "libvirt.domain.delete" cmd
  unfold deleteDomainVolumes
  refine connected_confined (.next (.mapM fun path hpath => ?_) fun _ => .value)
  obtain ⟨xml, hxml, hmem⟩ := hpaths path hpath
  unfold deleteVolume
  split
  · exact .value
  · refine .ask (hrule.allows rfl) fun answer => ?_
    cases answer with
    | error err => exact .value
    | ok vol =>
      refine .deferCall (hrule.allows rfl) (.call fun _ _ hE _ => ?_)
      have hold := fun {e} he => hE (List.mem_cons_of_mem _ (a := e) he)
      exact .deleteVolume hparams hremove ⟨hname, conn, hold hd⟩ (hold hundefined) (hold hxml)
        hmem (hE (.head _))

theorem handleLibvirtVMDelete_confined :
    Confined H (Rule moby "libvirt.domain.delete" cmd) [] (handleLibvirtVMDelete H cmd) Bare := by
  have hrule := Rule.lenient moby "libvirt.domain.delete" cmd
  refine unmarshalParams_confined fun params hparams => ?_
  refine withDomain_confined hrule fun hname conn d => ?_
  refine .bind (describeDomain_confined hrule d) ?_
  rintro ⟨_, diskPaths⟩ E hpaths
  have hd : foundBy conn params.name d ∈ E ++ [foundBy conn params.name d] :=
    List.mem_append_right _ (.head _)
  have hrest : ∀ E', E ++ [foundBy conn params.name d] ⊆ E' →
      (∀ before, E' ⊆ before → Stopped before params.forceStop d) →
      Confined H (Rule moby "libvirt.domain.delete" cmd) E' (do
        call H (.domainOp d .undefineFlags)
        doIf params.removeVolumes (deleteDomainVolumes H (some conn) diskPaths)
        pure (Json.obj [("removed_volumes", Json.bool params.removeVolumes)])) Bare := by
    intro E' hsub hstopped
    refine .callThen (fun _ _ hE _ => ?_) fun _ => ?_
    · exact .deleteUndefine hparams ⟨hname, conn, hE (hsub hd)⟩ (hstopped _ hE)
    refine .next (.doIf fun hremove => ?_) fun _ => .value
    refine deleteDomainVolumes_confined hparams hremove hname (.tail _ (hsub hd)) (.head _) ?_
    intro path hpath
    obtain ⟨xml, hxml, hmem⟩ := hpaths path hpath
    exact ⟨xml, .tail _ (hsub (List.mem_append_left _ hxml)), hmem⟩
  refine .answerOr (hrule.allows rfl) (fun err => ?_) fun active => ?_
  · exact hrest _ (List.subset_cons_self _ _) fun _ hE => .inr ⟨.error err, nofun, hE (.head _)⟩
  cases active with
  | false =>
    refine .next (Q := Bare) .value fun _ => ?_
    refine hrest _ (List.subset_cons_self _ _) fun _ hE => .inr ⟨.ok false, ?_, hE (.head _)⟩
    decide
  | true =>
    -- a running domain is stopped first, if the command says so
    refine .bind (Q := fun _ _ => params.forceStop = true) ?_ fun _ E' hforce => ?_
    · refine .refuseIf fun hforce => ?_
      have hforce' : params.forceStop = true := by simpa using hforce
      refine (Confined.call fun _ _ hE _ => ?_).weaken fun _ _ _ => hforce'
      exact .deleteDestroy hparams hforce' ⟨hname, conn, hE (.tail _ hd)⟩ (hE (.head _))
    · refine hrest _ ?_ fun _ _ => .inl hforce
      exact List.Subset.trans (List.subset_cons_self _ _) (List.subset_append_right _ _)

/-- Every command makes only the changes it asks for. -/
theorem runCommand_confined (action : String) :
    Confined H (Rule moby action cmd) [] (runCommand H moby action cmd) Bare := by
  have hrule := Rule.lenient moby action cmd
  unfold runCommand
  split
  · exact .map _ (handleDockerContainersList_confined hrule)
  · exact .map _ (handleDockerImagesList_confined hrule)
  · exact .map _ handleDockerImagePull_confined
  · exact .map _ handleDockerImageRemove_confined
  · exact .map _ handleDockerContainerCreate_confined
  · exact .map _ handleDockerContainerStart_confined
  · exact .map _ handleDockerContainerStop_confined
  · exact .map _ handleDockerContainerRestart_confined
  · exact .map _ handleDockerContainerRemove_confined
  · exact .map _ (handleLibvirtDomainsList_confined hrule)
  · exact .map _ (handleLibvirtStoragePoolsList_confined hrule)
  · exact .map _ (handleLibvirtNetworksList_confined hrule)
  · exact .map _ handleLibvirtVMCreate_confined
  · exact .map _ (handleDomainAction_confined (.head _))
  · exact .map _ (handleDomainAction_confined (.tail _ (.head _)))
  · exact .map _ (handleDomainAction_confined (.tail _ (.tail _ (.head _))))
  · exact .map _ (handleDomainAction_confined (.tail _ (.tail _ (.tail _ (.head _)))))
  · exact .map _ handleLibvirtVMDelete_confined
  · exact .map _ handleLibvirtVMSetAutostart_confined
  · exact .map _ handleLibvirtVMAttachISO_confined
  · exact .map _ handleLibvirtVMDetachISO_confined
  · exact .value

end

/-! ## Iterations of the loop -/

/-- The change was asked for by the command that is being handled. -/
def AskedBy (moby : Moby) (read : Except String Packet) (before : List (Event interface))
    (c : Call) : Prop :=
  ∃ packet action cmd, read = .ok packet ∧
    packetHandlers packet.type = some .handleNodeCommand ∧
    commandHandler packet = .ok (action, cmd) ∧ Asked moby cmd before action c

/-- The rule for an iteration. -/
def ReadRule (moby : Moby) (read : Except String Packet) (before : List (Event interface))
    (e : Event interface) : Prop :=
  e.call.changes = true → AskedBy moby read before e.call

section
variable {moby : Moby}

theorem ReadRule.lenient (read : Except String Packet) : Lenient (ReadRule moby read) where
  looks before e h hchanges := by
    rw [h] at hchanges
    cases hchanges

/-- The rule of a command is that of the packet it comes in. -/
theorem readRule_eq {packet : Packet} {action : String} {cmd : NodeCommand}
    (hhandler : packetHandlers packet.type = some .handleNodeCommand)
    (hcmd : commandHandler packet = .ok (action, cmd)) :
    ReadRule moby (.ok packet) = Rule moby action cmd := by
  funext before e
  refine propext ⟨fun h hchanges => ?_, fun h hchanges => ?_⟩
  · obtain ⟨_, action', cmd', hread, -, hcmd', hasked⟩ := h hchanges
    cases hread
    rw [hcmd] at hcmd'
    cases hcmd'
    exact hasked
  · exact ⟨packet, action, cmd, rfl, hhandler, hcmd, h hchanges⟩

section
variable {rule : List (Event interface) → Event interface → Prop} (hrule : Lenient rule)
include hrule

theorem writeReply_confined (reply : Except String Packet) :
    Confined H rule [] (writeReply H reply) Bare := by
  cases reply with
  | error err => exact .stop
  | ok p => exact .callThen (hrule.allows rfl) fun _ => .value

theorem handleHeartbeat_confined (packet : Packet) :
    Confined H rule [] (handleHeartbeat H packet) Bare := by
  refine .next (Q := Bare) ?_ fun hw => .derefAny fun ram => ?_
  · refine .look (hrule.allows rfl) fun ram => ?_
    refine .look (hrule.allows rfl) fun cpuUsage => ?_
    exact .look (hrule.allows rfl) fun cores => .index fun cpu => .value
  · split
    · exact .stop
    · exact writeReply_confined hrule _

end

theorem runHandler_confined {packet : Packet} {handler : PacketHandler}
    (h : packetHandlers packet.type = some handler) :
    Confined H (ReadRule moby (.ok packet)) [] (runHandler H moby packet handler) Bare := by
  have hrule : Lenient (ReadRule moby (.ok packet)) := ReadRule.lenient _
  cases handler with
  | handleHeartbeat => exact handleHeartbeat_confined hrule packet
  | handleNodeCommand =>
    show Confined H _ [] (handleNodeCommand H moby packet) Bare
    unfold handleNodeCommand
    cases hcmd : commandHandler packet with
    | error reply => exact writeReply_confined hrule _
    | ok found =>
      refine .next (Q := Bare) ?_ fun output => writeReply_confined hrule _
      rw [readRule_eq h hcmd]
      exact .catchError (runCommand_confined found.1)

theorem serve_confined (read : Except String Packet) :
    Confined H (ReadRule moby read) [] (serve H moby read) Bare := by
  unfold serve
  cases read with
  | error err => exact .value
  | ok packet =>
    dsimp only
    split
    · exact .value
    · next handler hhandler =>
      refine .next (.catchError (runHandler_confined hhandler)) fun output => ?_
      cases output with
      | error err => exact .value
      | ok reply => exact .value

/-- Nothing that an iteration of the loop does was not asked for. -/
theorem packetLoop_confined (reads : List (Except String Packet))
    (w : World interface σ Globals) :
    ∀ step ∈ packetLoop H moby w reads, Each (ReadRule moby step.read) step.events := by
  induction reads generalizing w with
  | nil => exact fun step hstep => absurd hstep List.not_mem_nil
  | cons read reads ih =>
    have hconfined : Confined H (ReadRule moby read) [] (serve H moby read) Bare :=
      serve_confined read
    have hserve := (hconfined.run { w with events := [] } .nil (List.nil_subset _)).events
    intro step hstep
    rw [packetLoop] at hstep
    split at hstep
    -- in the last case the loop goes on
    case h_4 ending w' _ hrun =>
      rw [hrun] at hserve
      rcases List.mem_cons.mp hstep with rfl | hrest
      · exact hserve
      · exact ih w' step hrest
    all_goals
      next hrun =>
        rw [hrun] at hserve
        cases List.mem_singleton.mp hstep
        exact hserve

theorem connect_confined (moby : Moby) (s : σ) (master : String)
    (reads : List (Except String Packet)) :
    ∀ step ∈ (connect H moby s master reads).served,
      Each (ReadRule moby step.read) step.events := by
  intro step hstep
  unfold connect at hstep
  split at hstep
  · exact packetLoop_confined reads _ step hstep
  · exact absurd hstep List.not_mem_nil
  · exact absurd hstep List.not_mem_nil

/-- In every run of `Connect`, on any host: a call in the loop that changes
something was asked for, after the calls before it in its iteration, by the
command that the iteration handles. -/
theorem changes_asked (moby : Moby) (s : σ) (master : String)
    (reads : List (Except String Packet)) :
    ∀ step ∈ (connect H moby s master reads).served, ∀ before e after,
      step.events = before ++ e :: after → e.call.changes = true →
        AskedBy moby step.read before e.call :=
  connect_confined moby s master reads

end

/-- A host with one domain, which can be started. -/
def startHost : Host interface Unit where
  answer c s := (match c with
    | .newConnect => .ok ⟨"qemu:///system"⟩
    | .lookup .domain _ "web" => .ok ⟨"web"⟩
    | .domainOp _ .create => .ok ()
    | .free _ _ => .ok ()
    | .writePacket _ => .ok ()
    | _ => .error "unavailable", s)

def startPacket : Packet where
  type := packetNodeCommand
  id := "c1"
  payload := some (.obj [("action", .str "libvirt.domain.start"),
    ("params", .obj [("name", .str " web ")])])

def startReply : Packet where
  type := packetNodeCommandReply
  replyTo := "c1"
  payload := some (handlerReply (.ok (some statusOK))).marshal

/-- The iteration in which the domain is started. -/
def startServed : Served where
  read := .ok startPacket
  events := [foundBy ⟨"qemu:///system"⟩ " web " ⟨"web"⟩, ⟨.domainOp ⟨"web"⟩ .create, .ok (), false⟩,
    ⟨.free .domain ⟨"web"⟩, .ok (), true⟩, ⟨.writePacket startReply, .ok (), false⟩]
  ending := .replied startReply

theorem changes_asked_start :
    startServed ∈ (connect startHost ⟨some, fun _ => none⟩ () "10.0.0.1:49149"
      [.ok startPacket]).served ∧
    AskedBy ⟨some, fun _ => none⟩ (.ok startPacket) [foundBy ⟨"qemu:///system"⟩ " web " ⟨"web"⟩]
      (.domainOp ⟨"web"⟩ .create) := by
  have hserved : (connect startHost ⟨some, fun _ => none⟩ () "10.0.0.1:49149"
      [.ok startPacket]).served = [startServed] := rfl
  have hmem := hserved ▸ List.mem_singleton_self startServed
  exact ⟨hmem, changes_asked ⟨some, fun _ => none⟩ () "10.0.0.1:49149" [.ok startPacket]
    startServed hmem [foundBy ⟨"qemu:///system"⟩ " web " ⟨"web"⟩] _ _ rfl rfl⟩

end Centralisd.Slave.Process
