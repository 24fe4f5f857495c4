import Mathlib
import Centralisd.Core.Params
import Centralisd.Lib.Xml

/-!
# Centralisd — the XML given to libvirt

`src/slave/libvirt/vm.go`: the XML of a domain, of its CD-ROM device and of a
volume, each put together from strings, and the disks that `DescribeDomain`
reads out of a domain's XML. `xml.EscapeText` is `Xml.escape`.

Each text is that of a markup (`Xml.Markup`), so it parses, and to the tree
of that markup, whatever the strings are: `xml_reads_back`.
-/

namespace Centralisd.Slave

open Xml

/-! ## Writing -/

def xmlEscape (raw : String) : String := String.ofList (escape raw.toList)

/-- The `%d` of `fmt`. -/
def decimal (n : UInt64) : String := Nat.repr n.toNat

/-- The default of an empty network name. -/
def networkName (params : LibvirtVMCreateParams) : String :=
  if trimSpace params.network = "" then "default" else trimSpace params.network

def memoryOrDefault (params : LibvirtVMCreateParams) : UInt64 :=
  if params.memoryMB = 0 then 2048 else params.memoryMB

def vcpusOrDefault (params : LibvirtVMCreateParams) : UInt64 :=
  if params.vcpus = 0 then 2 else params.vcpus

def buildDomainXML (params : LibvirtVMCreateParams) (diskPath : String) : String :=
  "<domain type='kvm'>" ++
  ("<name>" ++ xmlEscape (trimSpace params.name) ++ "</name>") ++
  ("<memory unit='MiB'>" ++ decimal (memoryOrDefault params) ++ "</memory>") ++
  ("<currentMemory unit='MiB'>" ++ decimal (memoryOrDefault params) ++ "</currentMemory>") ++
  ("<vcpu placement='static'>" ++ decimal (vcpusOrDefault params) ++ "</vcpu>") ++
  ("<os>" ++ "<type arch='x86_64' machine='pc'>" ++ "hvm" ++ "</type>" ++ "<boot dev='hd'/>") ++
  (if trimSpace params.isoPath ≠ "" then "<boot dev='cdrom'/>" else "") ++
  "</os>" ++
  ("<features>" ++ "<acpi/>" ++ "<apic/>" ++ "<pae/>" ++ "</features>") ++
  "<clock offset='utc'/>" ++
  ("<on_poweroff>destroy</on_poweroff>" ++ "<on_reboot>restart</on_reboot>" ++
    "<on_crash>restart</on_crash>") ++
  "<devices>" ++
  ("<disk type='file' device='disk'>" ++ "<driver name='qemu' type='qcow2'/>" ++
    "<source file='" ++ xmlEscape diskPath ++ "'/>" ++ "<target dev='vda' bus='virtio'/>" ++
    "</disk>") ++
  (if trimSpace params.isoPath ≠ "" then
    "<disk type='file' device='cdrom'>" ++ "<driver name='qemu' type='raw'/>" ++
      "<source file='" ++ xmlEscape (trimSpace params.isoPath) ++ "'/>" ++
      "<target dev='hdc' bus='ide'/>" ++ "<readonly/>" ++ "</disk>"
    else "") ++
  ("<interface type='network'>" ++ "<source network='" ++ xmlEscape (networkName params) ++
    "'/>" ++ "<model type='virtio'/>" ++ "</interface>") ++
  "<graphics type='vnc' autoport='yes' listen='0.0.0.0'/>" ++
  ("<serial type='pty'/>" ++ "<console type='pty'/>" ++ "<input type='tablet' bus='usb'/>" ++
    "<video>" ++ "<model type='virtio'/>" ++ "</video>") ++
  ("</devices>" ++ "</domain>")

def buildCDROMDeviceXML (isoPath : String) : String :=
  ("<disk type='file' device='cdrom'>" ++ "<driver name='qemu' type='raw'/>") ++
  (if trimSpace isoPath ≠ "" then
    "<source file='" ++ xmlEscape (trimSpace isoPath) ++ "'/>" else "") ++
  ("<target dev='hdc' bus='ide'/>" ++ "<readonly/>" ++ "</disk>")

/-- `filepath.Ext`: from the last dot of the last element on. -/
def ext (path : String) : String :=
  let base := path.toList.reverse.takeWhile (· ≠ '/')
  if '.' ∈ base then String.ofList ('.' :: (base.takeWhile (· ≠ '.')).reverse) else ""

/-- The name `CreateDiskVolume` gives the volume. -/
def volumeName (diskName : String) : String :=
  if ext (trimSpace diskName) = "" then trimSpace diskName ++ ".qcow2" else trimSpace diskName

def sizeOrDefault (diskSizeGB : UInt64) : UInt64 := if diskSizeGB = 0 then 20 else diskSizeGB

/-- The XML that `CreateDiskVolume` passes to `StorageVolCreateXML`. -/
def volumeXML (diskName : String) (diskSizeGB : UInt64) : String :=
  "<volume>" ++ "<name>" ++ xmlEscape (volumeName diskName) ++ "</name>" ++
    "<capacity unit='GiB'>" ++ decimal (sizeOrDefault diskSizeGB) ++
    ("</capacity>" ++ "<target>" ++ "<format type='qcow2'/>" ++ "</target>" ++ "</volume>")

/-! ## Reading -/

/-- `domainDiskXML`; an attribute that is not there is the empty string. -/
structure DomainDisk where
  device : String := ""
  type : String := ""
  file : String := ""
  dev : String := ""
  bus : String := ""
  deriving DecidableEq, Repr

/-- An attribute of a nested element; of several elements the last one that
has it counts. -/
def nestedAttr (n : Node) (child name : String) : String :=
  (n.childrenNamed child).foldl (fun old c => (c.attr name).getD old) ""

def unmarshalDisk (n : Node) : DomainDisk where
  device := (n.attr "device").getD ""
  type := (n.attr "type").getD ""
  file := nestedAttr n "source" "file"
  dev := nestedAttr n "target" "dev"
  bus := nestedAttr n "target" "bus"

/-- The disks of a `domainXML`. -/
def unmarshalDisks (root : Node) : List DomainDisk :=
  ((root.childrenNamed "devices").flatMap fun d => d.childrenNamed "disk").map unmarshalDisk

/-- The loop of `DescribeDomain`: `isoPath` and `diskPaths`. -/
def describeDisks (disks : List DomainDisk) : String × List String :=
  disks.foldl (fun out disk =>
    (if disk.device = "cdrom" ∧ disk.file ≠ "" then disk.file else out.1,
      if disk.device = "disk" ∧ disk.type = "file" ∧ disk.file ≠ "" then out.2 ++ [disk.file]
      else out.2)) ("", [])

/-! ## The markup of each text -/

def bootMarkup (params : LibvirtVMCreateParams) : List Markup :=
  if trimSpace params.isoPath ≠ "" then [.empty "boot" [("dev", "cdrom")]] else []

def cdromSource (isoPath : String) : List Markup :=
  if trimSpace isoPath ≠ "" then [.empty "source" [("file", trimSpace isoPath)]] else []

def cdromMarkup (isoPath : String) : Markup :=
  .elem "disk" [("type", "file"), ("device", "cdrom")]
    (.empty "driver" [("name", "qemu"), ("type", "raw")] :: (cdromSource isoPath ++
      [.empty "target" [("dev", "hdc"), ("bus", "ide")], .empty "readonly" []]))

def diskMarkup (diskPath : String) : Markup :=
  .elem "disk" [("type", "file"), ("device", "disk")]
    [.empty "driver" [("name", "qemu"), ("type", "qcow2")], .empty "source" [("file", diskPath)],
      .empty "target" [("dev", "vda"), ("bus", "virtio")]]

def isoMarkup (params : LibvirtVMCreateParams) : List Markup :=
  if trimSpace params.isoPath ≠ "" then [cdromMarkup params.isoPath] else []

def osMarkup (params : LibvirtVMCreateParams) : Markup :=
  .elem "os" [] (.text "type" [("arch", "x86_64"), ("machine", "pc")] "hvm" ::
    .empty "boot" [("dev", "hd")] :: bootMarkup params)

def interfaceMarkup (params : LibvirtVMCreateParams) : Markup :=
  .elem "interface" [("type", "network")]
    [.empty "source" [("network", networkName params)], .empty "model" [("type", "virtio")]]

/-- The devices that are the same in every domain. -/
def consoleMarkup : List Markup :=
  [.empty "graphics" [("type", "vnc"), ("autoport", "yes"), ("listen", "0.0.0.0")],
    .empty "serial" [("type", "pty")], .empty "console" [("type", "pty")],
    .empty "input" [("type", "tablet"), ("bus", "usb")],
    .elem "video" [] [.empty "model" [("type", "virtio")]]]

def devicesMarkup (params : LibvirtVMCreateParams) (diskPath : String) : Markup :=
  .elem "devices" [] (diskMarkup diskPath ::
    (isoMarkup params ++ interfaceMarkup params :: consoleMarkup))

def lifecycleMarkup : List Markup :=
  [.elem "features" [] [.empty "acpi" [], .empty "apic" [], .empty "pae" []],
    .empty "clock" [("offset", "utc")], .text "on_poweroff" [] "destroy",
    .text "on_reboot" [] "restart", .text "on_crash" [] "restart"]

def domainMarkup (params : LibvirtVMCreateParams) (diskPath : String) : Markup :=
  .elem "domain" [("type", "kvm")]
    (.text "name" [] (trimSpace params.name) ::
      .text "memory" [("unit", "MiB")] (decimal (memoryOrDefault params)) ::
      .text "currentMemory" [("unit", "MiB")] (decimal (memoryOrDefault params)) ::
      .text "vcpu" [("placement", "static")] (decimal (vcpusOrDefault params)) ::
      osMarkup params :: (lifecycleMarkup ++ [devicesMarkup params diskPath]))

def volumeMarkup (diskName : String) (diskSizeGB : UInt64) : Markup :=
  .elem "volume" [] [.text "name" [] (volumeName diskName),
    .text "capacity" [("unit", "GiB")] (decimal (sizeOrDefault diskSizeGB)),
    .elem "target" [] [.empty "format" [("type", "qcow2")]]]

/-- The characters of the fixed parts stand for themselves. -/
theorem escape_eq_self {cs : List Char} (h : ∀ c ∈ cs, escapeChar c = [c]) : escape cs = cs := by
  rw [escape, List.flatMap_congr h, List.flatMap_singleton']

theorem escapeChar_digit {c : Char} (h : c.isDigit = true) : escapeChar c = [c] := by
  have hrange : 48 ≤ c.toNat ∧ c.toNat ≤ 57 := by
    rw [Char.isDigit, Bool.and_eq_true, decide_eq_true_eq, decide_eq_true_eq] at h
    exact ⟨UInt32.le_iff_toNat_le.mp h.1, UInt32.le_iff_toNat_le.mp h.2⟩
  have hne : ∀ d : Char, d.toNat < 48 ∨ 57 < d.toNat → c ≠ d := by
    rintro d hd rfl
    omega
  have hchar : isChar c = true := by
    have hlow : 0x20 ≤ c.toNat ∧ c.toNat ≤ 0xD7FF := by omega
    simp [isChar, hlow]
  unfold escapeChar
  rw [if_neg (hne _ (by decide)), if_neg (hne _ (by decide)), if_neg (hne _ (by decide)),
    if_neg (hne _ (by decide)), if_neg (hne _ (by decide)), if_neg (hne _ (by decide)),
    if_neg (hne _ (by decide)), if_neg (hne _ (by decide)), if_pos hchar]

theorem escape_decimal (n : UInt64) : escape (decimal n).toList = (decimal n).toList := by
  refine escape_eq_self fun c hc => escapeChar_digit ?_
  rw [decimal, Nat.toList_repr] at hc
  exact Nat.isDigit_of_mem_toDigits (by decide) (by decide) hc

theorem toList_xmlEscape (raw : String) : (xmlEscape raw).toList = escape raw.toList :=
  String.toList_ofList

theorem toList_buildCDROMDeviceXML (isoPath : String) :
    (buildCDROMDeviceXML isoPath).toList = (cdromMarkup isoPath).write := by
  unfold buildCDROMDeviceXML cdromMarkup cdromSource
  split <;>
  · simp only [String.toList_append, toList_xmlEscape]
    simp [Markup.write, writeMarkups, writeAttrs, escape, escapeChar, isChar]

theorem write_osMarkup (params : LibvirtVMCreateParams) :
    (osMarkup params).write =
      ("<os>" ++ "<type arch='x86_64' machine='pc'>" ++ "hvm" ++ "</type>" ++
        "<boot dev='hd'/>").toList ++
      ((if trimSpace params.isoPath ≠ "" then "<boot dev='cdrom'/>" else "").toList ++
        "</os>".toList) := by
  unfold osMarkup bootMarkup
  split <;>
  · simp only [String.toList_append]
    simp [Markup.write, writeMarkups, writeAttrs, escape, escapeChar, isChar]

theorem write_diskMarkup (diskPath : String) :
    (diskMarkup diskPath).write =
      ("<disk type='file' device='disk'>" ++ "<driver name='qemu' type='qcow2'/>" ++
        "<source file='" ++ xmlEscape diskPath ++ "'/>" ++ "<target dev='vda' bus='virtio'/>" ++
        "</disk>").toList := by
  simp only [String.toList_append, toList_xmlEscape]
  simp [diskMarkup, Markup.write, writeMarkups, writeAttrs, escape, escapeChar, isChar]

theorem write_isoMarkup (params : LibvirtVMCreateParams) :
    writeMarkups (isoMarkup params) =
      (if trimSpace params.isoPath ≠ "" then
        "<disk type='file' device='cdrom'>" ++ "<driver name='qemu' type='raw'/>" ++
          "<source file='" ++ xmlEscape (trimSpace params.isoPath) ++ "'/>" ++
          "<target dev='hdc' bus='ide'/>" ++ "<readonly/>" ++ "</disk>"
        else "").toList := by
  unfold isoMarkup
  split
  · next h =>
    -- the device of a CD-ROM with a source
    have hdevice := toList_buildCDROMDeviceXML params.isoPath
    unfold buildCDROMDeviceXML at hdevice
    rw [if_pos h] at hdevice
    simp only [-String.reduceAppend, -String.reduceToList, String.toList_append,
      List.append_assoc] at hdevice ⊢
    simp only [-String.reduceAppend, -String.reduceToList, writeMarkups, List.append_nil, ← hdevice]
  · rfl

theorem write_interfaceMarkup (params : LibvirtVMCreateParams) :
    (interfaceMarkup params).write =
      ("<interface type='network'>" ++ "<source network='" ++ xmlEscape (networkName params) ++
        "'/>" ++ "<model type='virtio'/>" ++ "</interface>").toList := by
  simp only [String.toList_append, toList_xmlEscape]
  simp [interfaceMarkup, Markup.write, writeMarkups, writeAttrs, escape, escapeChar, isChar]

theorem write_consoleMarkup :
    writeMarkups consoleMarkup =
      ("<graphics type='vnc' autoport='yes' listen='0.0.0.0'/>" ++
        ("<serial type='pty'/>" ++ "<console type='pty'/>" ++ "<input type='tablet' bus='usb'/>" ++
          "<video>" ++ "<model type='virtio'/>" ++ "</video>")).toList := by
  simp only [String.toList_append]
  simp [consoleMarkup, Markup.write, writeMarkups, writeAttrs, escape, escapeChar, isChar]

theorem write_lifecycleMarkup :
    writeMarkups lifecycleMarkup =
      (("<features>" ++ "<acpi/>" ++ "<apic/>" ++ "<pae/>" ++ "</features>") ++
        "<clock offset='utc'/>" ++ ("<on_poweroff>destroy</on_poweroff>" ++
        "<on_reboot>restart</on_reboot>" ++ "<on_crash>restart</on_crash>")).toList := by
  simp only [String.toList_append]
  simp [lifecycleMarkup, Markup.write, writeMarkups, writeAttrs, escape, escapeChar, isChar]

theorem writeMarkups_append (ms ms' : List Markup) :
    writeMarkups (ms ++ ms') = writeMarkups ms ++ writeMarkups ms' := by
  induction ms with
  | nil => rfl
  | cons m ms ih => rw [List.cons_append, writeMarkups, writeMarkups, ih, List.append_assoc]

section
variable {name : String} {attrs : List (String × String)} {before after : String}

/-- An element around one string, by the texts of its tags. -/
theorem write_text (body : String)
    (hbefore : before.toList = '<' :: (name.toList ++ (writeAttrs attrs ++ ['>'])))
    (hafter : after.toList = '<' :: '/' :: (name.toList ++ ['>'])) :
    (Markup.text name attrs body).write = (before ++ xmlEscape body ++ after).toList := by
  simp only [Markup.write, String.toList_append, toList_xmlEscape, hbefore, hafter,
    List.append_assoc, List.cons_append, List.nil_append]

/-- An element around others. -/
theorem write_elem (children : List Markup)
    (hbefore : before.toList = '<' :: (name.toList ++ (writeAttrs attrs ++ ['>'])))
    (hafter : after.toList = '<' :: '/' :: (name.toList ++ ['>'])) :
    (Markup.elem name attrs children).write =
      before.toList ++ (writeMarkups children ++ after.toList) := by
  simp only [Markup.write, hbefore, hafter, List.append_assoc, List.cons_append, List.nil_append]

end

theorem xmlEscape_decimal (n : UInt64) : xmlEscape (decimal n) = decimal n := by
  rw [xmlEscape, escape_decimal, String.ofList_toList]

theorem write_devicesMarkup (params : LibvirtVMCreateParams) (diskPath : String) :
    (devicesMarkup params diskPath).write =
      "<devices>".toList ++ ((diskMarkup diskPath).write ++ (writeMarkups (isoMarkup params) ++
        ((interfaceMarkup params).write ++
          (writeMarkups consoleMarkup ++ "</devices>".toList)))) := by
  have hbefore : "<devices>".toList = '<' :: ("devices".toList ++ (writeAttrs [] ++ ['>'])) := by
    decide
  have hafter : "</devices>".toList = '<' :: '/' :: ("devices".toList ++ ['>']) := by decide
  rw [devicesMarkup, write_elem _ hbefore hafter]
  simp only [writeMarkups, writeMarkups_append, List.append_assoc]

theorem toList_buildDomainXML (params : LibvirtVMCreateParams) (diskPath : String) :
    (buildDomainXML params diskPath).toList = (domainMarkup params diskPath).write := by
  have hname := @write_text "name" [] "<name>" "</name>" (trimSpace params.name)
    (by decide) (by decide)
  have hmem := @write_text "memory" [("unit", "MiB")] "<memory unit='MiB'>" "</memory>"
    (decimal (memoryOrDefault params)) (by decide) (by decide)
  have hcur := @write_text "currentMemory" [("unit", "MiB")] "<currentMemory unit='MiB'>"
    "</currentMemory>" (decimal (memoryOrDefault params)) (by decide) (by decide)
  have hcpu := @write_text "vcpu" [("placement", "static")] "<vcpu placement='static'>" "</vcpu>"
    (decimal (vcpusOrDefault params)) (by decide) (by decide)
  have hroot := fun children => @write_elem "domain" [("type", "kvm")] "<domain type='kvm'>"
    "</domain>" children (by decide) (by decide)
  rw [domainMarkup, hroot]
  unfold buildDomainXML
  -- the literals stay as they are: both sides have the same ones
  simp only [-String.reduceAppend, -String.reduceToList, writeMarkups, writeMarkups_append, hname,
    hmem, hcur, hcpu, write_osMarkup, write_lifecycleMarkup, write_devicesMarkup, write_diskMarkup,
    write_isoMarkup, write_interfaceMarkup, write_consoleMarkup, xmlEscape_decimal,
    String.toList_append, List.append_assoc, List.append_nil]

theorem toList_volumeXML (diskName : String) (diskSizeGB : UInt64) :
    (volumeXML diskName diskSizeGB).toList = (volumeMarkup diskName diskSizeGB).write := by
  have hname := @write_text "name" [] "<name>" "</name>" (volumeName diskName)
    (by decide) (by decide)
  have hcap := @write_text "capacity" [("unit", "GiB")] "<capacity unit='GiB'>" "</capacity>"
    (decimal (sizeOrDefault diskSizeGB)) (by decide) (by decide)
  have hroot := fun children => @write_elem "volume" [] "<volume>" "</volume>" children
    (by decide) (by decide)
  have htarget := fun children => @write_elem "target" [] "<target>" "</target>" children
    (by decide) (by decide)
  have hformat : (Markup.empty "format" [("type", "qcow2")]).write =
    "<format type='qcow2'/>".toList := by decide
  rw [volumeMarkup, hroot]
  unfold volumeXML
  simp only [-String.reduceAppend, -String.reduceToList, writeMarkups, hname, hcap, htarget,
    hformat, xmlEscape_decimal, String.toList_append, List.append_assoc, List.append_nil]

/-! ## Parsing -/

theorem parse_buildDomainXML (params : LibvirtVMCreateParams) (diskPath : String) :
    parse (buildDomainXML params diskPath) = some (domainMarkup params diskPath).node := by
  refine parse_markup _ ?_ (toList_buildDomainXML params diskPath)
  unfold domainMarkup osMarkup bootMarkup devicesMarkup isoMarkup cdromMarkup cdromSource
    lifecycleMarkup diskMarkup interfaceMarkup consoleMarkup
  split <;> simp [Markup.ok, allOK, attrsOK, isName, isNameStart, isNameChar]

theorem parse_volumeXML (diskName : String) (diskSizeGB : UInt64) :
    parse (volumeXML diskName diskSizeGB) = some (volumeMarkup diskName diskSizeGB).node := by
  refine parse_markup _ ?_ (toList_volumeXML diskName diskSizeGB)
  simp [volumeMarkup, Markup.ok, allOK, attrsOK, isName, isNameStart, isNameChar]

/-! ## What is read -/

def vmDisk (diskPath : String) : DomainDisk :=
  { device := "disk", type := "file", file := diskPath, dev := "vda", bus := "virtio" }

def cdromDisk (isoPath : String) : DomainDisk :=
  { device := "cdrom", type := "file", file := isoPath, dev := "hdc", bus := "ide" }

theorem unmarshalDisk_diskMarkup (diskPath : String) :
    unmarshalDisk (diskMarkup diskPath).node = vmDisk (clean diskPath) := by
  simp (disch := decide) [diskMarkup, unmarshalDisk, nestedAttr, List.filter_cons, cleanAttrs,
    clean_eq_self, vmDisk]

theorem unmarshalDisk_cdromMarkup (isoPath : String) :
    unmarshalDisk (cdromMarkup isoPath).node = cdromDisk (clean (trimSpace isoPath)) := by
  unfold cdromMarkup cdromSource
  split
  · simp (disch := decide) [unmarshalDisk, nestedAttr, List.filter_cons, cleanAttrs, clean_eq_self,
      cdromDisk]
  · next h =>
    rw [ne_eq, not_not] at h
    simp (disch := decide) [unmarshalDisk, nestedAttr, cleanAttrs, clean_eq_self, cdromDisk, h]

theorem unmarshalDisks_domainMarkup (params : LibvirtVMCreateParams) (diskPath : String) :
    unmarshalDisks (domainMarkup params diskPath).node = vmDisk (clean diskPath) ::
      if trimSpace params.isoPath ≠ "" then [cdromDisk (clean (trimSpace params.isoPath))]
      else [] := by
  rw [← unmarshalDisk_diskMarkup, ← unmarshalDisk_cdromMarkup]
  unfold unmarshalDisks domainMarkup osMarkup devicesMarkup isoMarkup
  split
  · simp [lifecycleMarkup, diskMarkup, cdromMarkup, interfaceMarkup, consoleMarkup]
  · simp [lifecycleMarkup, diskMarkup, interfaceMarkup, consoleMarkup]

end Centralisd.Slave
