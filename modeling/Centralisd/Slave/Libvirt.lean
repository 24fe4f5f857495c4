import Mathlib.Data.List.AList
import Mathlib.Logic.Function.Basic
import Centralisd.Lib.Effect
import Centralisd.Slave.DomainXML

/-!
# Centralisd — the libvirt handlers

`src/slave/handlers/libvirt.go` and `src/slave/libvirt/vm.go`, over an
explicit hypervisor: its pools, its volumes by their paths, and its domains
with their disks and flags. A handler is a program that changes it and may
end in an error (`EStateM`), so what a failed handler has done stays.

Each libvirt call may fail, and then does nothing; which calls of a handler's
run fail is an input (`LibvirtAnswers`). A call also fails where libvirt refuses it:
a volume that exists, a domain that does not, starting a running domain,
undefining one that is not defined. libvirt reads the XML it is given
(`Slave/DomainXML`) and reports its disks.

A domain that is undefined while it runs stays until it stops.
-/

namespace Centralisd.Slave

open Effect

/-! ## The hypervisor -/

structure Volume where
  pool : String
  name : String
  deriving DecidableEq, Repr

structure Domain where
  disks : List DomainDisk := []
  defined : Bool := false
  running : Bool := false
  autostart : Bool := false
  deriving DecidableEq, Repr

structure Hypervisor where
  pools : List String
  /-- by path -/
  volumes : AList fun _ : String => Volume
  /-- by name -/
  domains : String → Option Domain

def Hypervisor.hasVolume (h : Hypervisor) (pool name : String) : Bool :=
  h.volumes.entries.any fun v => (v.2.pool == pool) && (v.2.name == name)

def Hypervisor.setDomain (h : Hypervisor) (name : String) (d : Option Domain) : Hypervisor :=
  { h with domains := Function.update h.domains name d }

@[simp] theorem setDomain_volumes (h : Hypervisor) (name : String) (d : Option Domain) :
    (h.setDomain name d).volumes = h.volumes := rfl

@[simp] theorem setDomain_self (h : Hypervisor) (name : String) (d : Option Domain) :
    (h.setDomain name d).domains name = d := Function.update_self ..

theorem setDomain_ne (h : Hypervisor) {name name' : String} (hne : name' ≠ name)
    (d : Option Domain) : (h.setDomain name d).domains name' = h.domains name' :=
  Function.update_of_ne hne ..

/-- The paths that `DescribeDomain` collects. -/
def Domain.diskPaths (d : Domain) : List String := (describeDisks d.disks).2

/-- One of the domain's disks is the file at this path. -/
def Domain.UsesFile (d : Domain) (path : String) : Prop :=
  ∃ disk ∈ d.disks, disk.device = "disk" ∧ disk.type = "file" ∧ disk.file = path ∧ path ≠ ""

/-- A running domain stops; one that is not defined is gone then. -/
def Domain.stop (d : Domain) : Option Domain :=
  if d.defined then some { d with running := false } else none

/-! ## Calls -/

/-- The calls of a handler, those of a loop by the number of the iteration. -/
inductive Call where
  | getQEMU
  | lookupStoragePoolByName
  | storageVolCreateXML
  | getPath
  | volGetName
  | domainDefineXML
  | lookupDomainByName
  | getName
  | getXMLDesc
  | isActive
  | setAutostart
  | create
  | shutdown
  | reboot
  | destroy
  | undefineFlags
  | updateDeviceFlags
  | lookupStorageVolByPath (i : Nat)
  | delete (i : Nat)
  deriving DecidableEq, Repr

/-- A path that comes through the XML of libvirt, and through a handler that
trims it, as it is. -/
structure PlainPath (path : String) : Prop where
  text : Xml.isText path = true
  trimmed : trimSpace path = path

/-- What libvirt answers in one run of a handler. -/
structure LibvirtAnswers where
  /-- the error of a call that fails -/
  fails : Call → Option String := fun _ => none
  /-- where a new volume is put -/
  path : String
  /-- `GetUUIDString` of a new domain, empty when it fails -/
  uuid : String := ""
  /-- a guest that is asked to shut down has done so -/
  stops : Bool := false

abbrev Libvirt := EStateM String Hypervisor

/-- The call `c` itself fails or not. -/
def attempt (a : LibvirtAnswers) (c : Call) : Libvirt Unit :=
  match a.fails c with
  | some err => throw err
  | none => pure ()

def lookupStoragePoolByName (a : LibvirtAnswers) (name : String) : Libvirt Unit := do
  attempt a .lookupStoragePoolByName
  let h ← get
  refuseIf (name ∉ h.pools) "Storage pool not found"

/-- The name in a volume's XML. -/
def readVolume (xml : String) : Option String :=
  (Xml.parse xml).bind fun root => ((root.childrenNamed "name").map Xml.Node.content).head?

/-- `StorageVolCreateXML`: the new volume's path. -/
def storageVolCreateXML (a : LibvirtAnswers) (pool xml : String) : Libvirt String := do
  attempt a .storageVolCreateXML
  match readVolume xml with
  | none => throw "XML error"
  | some name =>
    let h ← get
    refuseIf (h.hasVolume pool name = true ∨ a.path ∈ h.volumes)
      "storage volume exists already"
    set { h with volumes := h.volumes.insert a.path ⟨pool, name⟩ }
    pure a.path

/-- The name and the disks in a domain's XML. -/
def readDomain (xml : String) : Option (String × List DomainDisk) :=
  (Xml.parse xml).bind fun root =>
    ((root.childrenNamed "name").map Xml.Node.content).head?.map fun name =>
      (name, unmarshalDisks root)

/-- A domain of this name gets the definition; its flags stay. -/
def Domain.redefine (old : Option Domain) (disks : List DomainDisk) : Domain :=
  { old.getD {} with disks := disks, defined := true }

/-- `DomainDefineXML`: the domain's name. -/
def domainDefineXML (a : LibvirtAnswers) (xml : String) : Libvirt String := do
  attempt a .domainDefineXML
  match readDomain xml with
  | none => throw "XML error"
  | some (name, disks) =>
    let h ← get
    set (h.setDomain name (some (Domain.redefine (h.domains name) disks)))
    pure name

/-- A call on a domain, by what it makes of the domain. -/
def domainCall (a : LibvirtAnswers) (c : Call) (name : String)
    (f : Domain → Except String (Option Domain)) : Libvirt Unit := do
  attempt a c
  let h ← get
  match h.domains name with
  | none => throw "Domain not found"
  | some d => match f d with
    | .error err => throw err
    | .ok d' => set (h.setDomain name d')

def setAutostart (a : LibvirtAnswers) (name : String) (autostart : Bool) : Libvirt Unit :=
  domainCall a .setAutostart name fun d =>
    if d.defined then .ok (some { d with autostart := autostart })
    else .error "cannot set autostart for transient domain"

def create (a : LibvirtAnswers) (name : String) : Libvirt Unit :=
  domainCall a .create name fun d =>
    if d.running then .error "domain is already running" else .ok (some { d with running := true })

def shutdown (a : LibvirtAnswers) (name : String) : Libvirt Unit :=
  domainCall a .shutdown name fun d =>
    if d.running then .ok (if a.stops then d.stop else some d) else .error "domain is not running"

def reboot (a : LibvirtAnswers) (name : String) : Libvirt Unit :=
  domainCall a .reboot name fun d =>
    if d.running then .ok (some d) else .error "domain is not running"

def destroy (a : LibvirtAnswers) (name : String) : Libvirt Unit :=
  domainCall a .destroy name fun d =>
    if d.running then .ok d.stop else .error "domain is not running"

def undefineFlags (a : LibvirtAnswers) (name : String) : Libvirt Unit :=
  domainCall a .undefineFlags name fun d =>
    if d.defined then
      .ok (if d.running then some { d with defined := false, autostart := false } else none)
    else .error "cannot undefine transient domain"

/-- The drive that `UpdateDeviceFlags` changes for a device given to it. -/
def DomainDisk.sameDrive (device disk : DomainDisk) : Bool :=
  (disk.device == "cdrom") && (device.device == "cdrom") && (disk.dev == device.dev)

/-- `UpdateDeviceFlags` with a CD-ROM device; `live` is the flag that
`DeviceModifyFlags` adds for a domain it takes for active. -/
def updateDeviceFlags (a : LibvirtAnswers) (name xml : String) (live : Bool) : Libvirt Unit :=
  domainCall a .updateDeviceFlags name fun d =>
    match (Xml.parse xml).map unmarshalDisk with
    | none => .error "XML error"
    | some device =>
      if d.defined = false ∨ (live = true ∧ d.running = false) then
        .error "Requested operation is not valid"
      else if d.disks.any device.sameDrive then
        .ok (some { d with disks := d.disks.map fun disk =>
          if device.sameDrive disk then { disk with file := device.file } else disk })
      else .error "device not found"

/-- `IsActive`, whose error is ignored. -/
def isActive (a : LibvirtAnswers) (name : String) (h : Hypervisor) : Bool :=
  (a.fails .isActive).isNone && ((h.domains name).elim false Domain.running)

/-! ## `vm.go` -/

def lookupDomainByName (a : LibvirtAnswers) (name : String) : Libvirt String := do
  refuseIf (trimSpace name = "") "domain name is required"
  attempt a .lookupDomainByName
  let h ← get
  refuseIf (h.domains (trimSpace name) = none) "Domain not found"
  pure (trimSpace name)

/-- The disk paths of `DescribeDomain`; the error of `GetXMLDesc` is
ignored. -/
def describeDomain (a : LibvirtAnswers) (name : String) : Libvirt (List String) := do
  attempt a .getName
  let h ← get
  pure (if (a.fails .getXMLDesc).isSome then [] else (h.domains name).elim [] Domain.diskPaths)

def poolOrDefault (poolName : String) : String :=
  if trimSpace poolName = "" then "default" else trimSpace poolName

def createDiskVolume (a : LibvirtAnswers) (poolName diskName : String) (diskSizeGB : UInt64) :
    Libvirt String := do
  refuseIf (trimSpace diskName = "") "disk name is required"
  lookupStoragePoolByName a (poolOrDefault poolName)
  let vol ← storageVolCreateXML a (poolOrDefault poolName) (volumeXML diskName diskSizeGB)
  -- on an error the volume is freed, not deleted
  attempt a .getPath
  pure vol

/-- `DeleteDomainVolumes` from its `i`-th path on. A volume that is not found
is passed over. -/
def deleteDomainVolumes (a : LibvirtAnswers) : Nat → List String → Libvirt Unit
  | _, [] => pure ()
  | i, path :: paths => do
    let h ← get
    if trimSpace path = "" ∨ (a.fails (.lookupStorageVolByPath i)).isSome ∨
        trimSpace path ∉ h.volumes then
      deleteDomainVolumes a (i + 1) paths
    else
      attempt a (.delete i)
      set { h with volumes := h.volumes.erase (trimSpace path) }
      deleteDomainVolumes a (i + 1) paths

/-! ## Handlers -/

/-- `json.Unmarshal` of `cmd.Params`. -/
def unmarshalParams {T : Type} (unmarshal : Json → Option T) (cmd : NodeCommand) : Option T :=
  cmd.params.bind unmarshal

def statusOK : Json := .obj [("status", .str "ok")]

/-- The parameters of `handleLibvirtVMCreate` with the name trimmed and the
disk named after the domain. -/
def namedParams (params : LibvirtVMCreateParams) : LibvirtVMCreateParams :=
  { params with
    name := trimSpace params.name
    diskName := if params.diskName = "" then trimSpace params.name else params.diskName }

/-- `LibvirtVMCreateResult`. -/
def createResult (a : LibvirtAnswers) (params : LibvirtVMCreateParams) (diskPath : String) : Json :=
  .obj ([("name", .str params.name)] ++ Json.omitEmpty "uuid" a.uuid ++
    Json.omitEmpty "disk_volume"
      (if (a.fails .volGetName).isSome then "" else volumeName params.diskName) ++
    Json.omitEmpty "disk_path" diskPath)

def handleLibvirtVMCreate (a : LibvirtAnswers) (cmd : NodeCommand) : Libvirt Json :=
  match unmarshalParams LibvirtVMCreateParams.unmarshal cmd with
  | none => throw "invalid vm create params"
  | some params => do
    let params := namedParams params
    refuseIf (params.name = "") "vm name is required"
    attempt a .getQEMU
    let diskPath ← createDiskVolume a params.diskPool params.diskName params.diskSizeGB
    let domain ← domainDefineXML a (buildDomainXML params diskPath)
    doIf params.autostart (setAutostart a domain true)
    doIf params.start (create a domain)
    pure (createResult a params diskPath)

def handleDomainAction (a : LibvirtAnswers) (cmd : NodeCommand) (action : String → Libvirt Unit) :
    Libvirt Json :=
  match unmarshalParams LibvirtVMActionParams.unmarshal cmd with
  | none => throw "invalid vm action params"
  | some params => do
    attempt a .getQEMU
    let domain ← lookupDomainByName a params.name
    action domain
    pure statusOK

def handleLibvirtVMStart (a : LibvirtAnswers) (cmd : NodeCommand) : Libvirt Json :=
  handleDomainAction a cmd (create a)

def handleLibvirtVMShutdown (a : LibvirtAnswers) (cmd : NodeCommand) : Libvirt Json :=
  handleDomainAction a cmd (shutdown a)

def handleLibvirtVMReboot (a : LibvirtAnswers) (cmd : NodeCommand) : Libvirt Json :=
  handleDomainAction a cmd (reboot a)

def handleLibvirtVMDestroy (a : LibvirtAnswers) (cmd : NodeCommand) : Libvirt Json :=
  handleDomainAction a cmd (destroy a)

def handleLibvirtVMSetAutostart (a : LibvirtAnswers) (cmd : NodeCommand) : Libvirt Json :=
  match unmarshalParams LibvirtVMSetAutostartParams.unmarshal cmd with
  | none => throw "invalid vm autostart params"
  | some params => do
    attempt a .getQEMU
    let domain ← lookupDomainByName a params.name
    setAutostart a domain params.enabled
    pure (.obj [("enabled", .bool params.enabled)])

def handleLibvirtVMAttachISO (a : LibvirtAnswers) (cmd : NodeCommand) : Libvirt Json :=
  match unmarshalParams LibvirtVMAttachISOParams.unmarshal cmd with
  | none => throw "invalid vm iso params"
  | some params => do
    let name := trimSpace params.name
    let isoPath := trimSpace params.isoPath
    refuseIf (name = "" ∨ isoPath = "") "vm name and iso path are required"
    attempt a .getQEMU
    let domain ← lookupDomainByName a name
    let h ← get
    updateDeviceFlags a domain (buildCDROMDeviceXML isoPath) (isActive a domain h)
    pure (.obj [("iso_path", .str isoPath)])

def handleLibvirtVMDetachISO (a : LibvirtAnswers) (cmd : NodeCommand) : Libvirt Json :=
  match unmarshalParams LibvirtVMActionParams.unmarshal cmd with
  | none => throw "invalid vm detach iso params"
  | some params => do
    attempt a .getQEMU
    let domain ← lookupDomainByName a params.name
    let h ← get
    updateDeviceFlags a domain (buildCDROMDeviceXML "") (isActive a domain h)
    pure statusOK

def handleLibvirtVMDelete (a : LibvirtAnswers) (cmd : NodeCommand) : Libvirt Json :=
  match unmarshalParams LibvirtVMDeleteParams.unmarshal cmd with
  | none => throw "invalid vm delete params"
  | some params => do
    attempt a .getQEMU
    let domain ← lookupDomainByName a params.name
    let diskPaths ← describeDomain a domain
    let h ← get
    doIf (isActive a domain h) do
      refuseIf (params.forceStop = false) "domain is running; force stop first"
      destroy a domain
    undefineFlags a domain
    doIf params.removeVolumes (deleteDomainVolumes a 0 diskPaths)
    pure (.obj [("removed_volumes", .bool params.removeVolumes)])

/-- The handlers that change the hypervisor, by their key in
`commandHandlers`. -/
def libvirtHandler (action : String) : Option (LibvirtAnswers → NodeCommand → Libvirt Json) :=
  match action with
  | "libvirt.domain.create" => some handleLibvirtVMCreate
  | "libvirt.domain.start" => some handleLibvirtVMStart
  | "libvirt.domain.shutdown" => some handleLibvirtVMShutdown
  | "libvirt.domain.reboot" => some handleLibvirtVMReboot
  | "libvirt.domain.destroy" => some handleLibvirtVMDestroy
  | "libvirt.domain.delete" => some handleLibvirtVMDelete
  | "libvirt.domain.autostart" => some handleLibvirtVMSetAutostart
  | "libvirt.domain.iso.attach" => some handleLibvirtVMAttachISO
  | "libvirt.domain.iso.detach" => some handleLibvirtVMDetachISO
  | _ => none

/-! ## Reported disks -/

/-- The fold of `DescribeDomain` collects the file disks. -/
theorem mem_describeDisks (disks : List DomainDisk) (iso path : String) (paths : List String) :
    path ∈ (disks.foldl (fun out disk =>
      (if disk.device = "cdrom" ∧ disk.file ≠ "" then disk.file else out.1,
        if disk.device = "disk" ∧ disk.type = "file" ∧ disk.file ≠ "" then out.2 ++ [disk.file]
        else out.2)) (iso, paths)).2 ↔
      path ∈ paths ∨
        ∃ disk ∈ disks, disk.device = "disk" ∧ disk.type = "file" ∧ disk.file = path ∧
          path ≠ "" := by
  induction disks generalizing iso paths with
  | nil => simp
  | cons disk disks ih =>
    rw [List.foldl_cons, ih]
    by_cases hdisk : disk.device = "disk" ∧ disk.type = "file" ∧ disk.file ≠ ""
    · rw [if_pos hdisk, List.mem_append, List.mem_singleton, List.exists_mem_cons_iff, or_assoc]
      refine or_congr_right (or_congr_left ⟨?_, fun h => h.2.2.1.symm⟩)
      rintro rfl
      exact ⟨hdisk.1, hdisk.2.1, rfl, hdisk.2.2⟩
    · rw [if_neg hdisk, List.exists_mem_cons_iff]
      refine or_congr_right (or_iff_right ?_).symm
      rintro ⟨hdevice, htype, rfl, hne⟩
      exact hdisk ⟨hdevice, htype, hne⟩

theorem mem_diskPaths {d : Domain} {path : String} : path ∈ d.diskPaths ↔ d.UsesFile path := by
  unfold Domain.diskPaths describeDisks
  rw [mem_describeDisks, or_iff_right (List.not_mem_nil)]
  rfl

/-! ## What the calls do -/

section
variable {a : LibvirtAnswers} {c : Call}

theorem attempt_ok (hc : a.fails c = none) (h : Hypervisor) : attempt a c h = .ok () h := by
  rw [attempt, hc]
  rfl

theorem attempt_error {err : String} (hc : a.fails c = some err) (h : Hypervisor) :
    attempt a c h = .error err h := by
  rw [attempt, hc]
  rfl

theorem domainCall_ok {name : String} {f : Domain → Except String (Option Domain)}
    {h : Hypervisor} {d : Domain} {d' : Option Domain} (hc : a.fails c = none)
    (hd : h.domains name = some d) (hf : f d = .ok d') :
    domainCall a c name f h = .ok () (h.setDomain name d') := by
  rw [domainCall, bind_ok (attempt_ok hc h), get_bind, hd]
  simp only [hf]
  rfl

/-- A call on a domain that is refused changes nothing. -/
theorem domainCall_refused {name : String} {f : Domain → Except String (Option Domain)}
    {h : Hypervisor}
    (hf : a.fails c ≠ none ∨ ∀ d, h.domains name = some d → ∃ err, f d = .error err) :
    ∃ err, domainCall a c name f h = .error err h := by
  rw [domainCall]
  cases hc : a.fails c with
  | some err => exact ⟨err, bind_error (attempt_error hc h)⟩
  | none =>
    rw [bind_ok (attempt_ok hc h), get_bind]
    cases hd : h.domains name with
    | none => exact ⟨_, rfl⟩
    | some d =>
      obtain ⟨err, herr⟩ := (hf.resolve_left (not_not.mpr hc)) d hd
      exact ⟨err, by simp only [herr]; rfl⟩

/-- What holds after a call on a domain, if it holds whatever the call makes
of the domain. -/
theorem domainCall_triple {P E : Hypervisor → Prop} {Q : Unit → Hypervisor → Prop} {name : String}
    {f : Domain → Except String (Option Domain)} (hE : ∀ h, P h → E h)
    (hset : ∀ h d d', P h → a.fails c = none → h.domains name = some d → f d = .ok d' →
      Q () (h.setDomain name d')) :
    Triple P (domainCall a c name f) Q E := by
  refine ⟨fun h hP => ?_⟩
  by_cases hf : a.fails c = none ∧ ∃ d d', h.domains name = some d ∧ f d = .ok d'
  · obtain ⟨hc, d, d', hd, hf⟩ := hf
    rw [domainCall_ok hc hd hf]
    exact hset h d d' hP hc hd hf
  · have hrefused : a.fails c ≠ none ∨ ∀ d, h.domains name = some d → ∃ err, f d = .error err := by
      by_cases hc : a.fails c = none
      · refine .inr fun d hd => ?_
        cases hfd : f d with
        | error err => exact ⟨err, rfl⟩
        | ok d' => exact absurd ⟨hc, d, d', hd, hfd⟩ hf
      · exact .inl hc
    obtain ⟨err, herr⟩ := domainCall_refused hrefused
    rw [herr]
    exact hE h hP

/-- What follows a call runs under the condition that it did not fail. -/
theorem attempt_bind {α : Type} {P E : Hypervisor → Prop} {Q : α → Hypervisor → Prop}
    {f : Unit → Libvirt α} (hE : ∀ h, P h → E h) (hf : a.fails c = none → Triple P (f ()) Q E) :
    Triple P (attempt a c >>= f) Q E := by
  refine ⟨fun h hP => ?_⟩
  cases hc : a.fails c with
  | none =>
    rw [bind_ok (attempt_ok hc h)]
    exact (hf hc).run h hP
  | some err =>
    rw [bind_error (attempt_error hc h)]
    exact hE h hP

/-- The name that libvirt reads in the XML of a create. -/
def xmlName (params : LibvirtVMCreateParams) : String := Xml.clean (trimSpace params.name)

/-- The disks that libvirt reads in the XML of a create. -/
def xmlDisks (params : LibvirtVMCreateParams) (diskPath : String) : List DomainDisk :=
  vmDisk (Xml.clean diskPath) ::
    if trimSpace params.isoPath ≠ "" then [cdromDisk (Xml.clean (trimSpace params.isoPath))] else []

theorem readVolume_volumeXML (diskName : String) (diskSizeGB : UInt64) :
    readVolume (volumeXML diskName diskSizeGB) = some (Xml.clean (volumeName diskName)) := by
  rw [readVolume, parse_volumeXML]
  simp [volumeMarkup]

theorem readDomain_buildDomainXML (params : LibvirtVMCreateParams) (diskPath : String) :
    readDomain (buildDomainXML params diskPath) =
      some (xmlName params, xmlDisks params diskPath) := by
  rw [readDomain, parse_buildDomainXML, xmlDisks, ← unmarshalDisks_domainMarkup]
  simp [domainMarkup, osMarkup, devicesMarkup, lifecycleMarkup, xmlName]

/-- `DomainDefineXML` of the XML of a create. -/
theorem domainDefineXML_build (a : LibvirtAnswers) (params : LibvirtVMCreateParams)
    (diskPath : String) :
    domainDefineXML a (buildDomainXML params diskPath) = (do
      attempt a .domainDefineXML
      let h ← get
      set (h.setDomain (xmlName params)
        (some (Domain.redefine (h.domains (xmlName params)) (xmlDisks params diskPath))))
      pure (xmlName params)) := by
  unfold domainDefineXML
  rw [readDomain_buildDomainXML]

end

end Centralisd.Slave
