import Centralisd.Lib.Machine
import Centralisd.Slave.Delete

/-!
# Centralisd — machines do not share disks

The disks of the defined domains of a host are existing volumes, and no two
domains have one in common: a new domain gets a volume that did not exist,
the CD-ROM is no disk, and a delete removes volumes of a domain that is no
longer defined. This holds after every sequence of node commands, whatever
libvirt calls fail; guests may power off in between.

* `disks_stay_disjoint` — so a delete never removes the disk of another
  defined domain.
-/

namespace Centralisd.Slave

open Effect Machine

/-! ## The invariant -/

/-- The domain is defined and has the file as its disk. -/
def Hypervisor.Uses (h : Hypervisor) (name path : String) : Prop :=
  ∃ d, h.domains name = some d ∧ d.defined = true ∧ d.UsesFile path

structure DisksOK (h : Hypervisor) : Prop where
  exist : ∀ name path, h.Uses name path → path ∈ h.volumes
  trimmed : ∀ name path, h.Uses name path → trimSpace path = path
  disjoint : ∀ name name' path, h.Uses name path → h.Uses name' path → name' = name

/-- It is enough that no disk is new and none is lost. -/
theorem DisksOK.of_uses {h h' : Hypervisor} (hok : DisksOK h)
    (huses : ∀ name path, h'.Uses name path → h.Uses name path)
    (hvolumes : ∀ name path, h'.Uses name path → path ∈ h'.volumes) : DisksOK h' :=
  ⟨hvolumes, fun name path hu => hok.trimmed name path (huses name path hu),
    fun name name' path hu hu' =>
      hok.disjoint name name' path (huses name path hu) (huses name' path hu')⟩

theorem uses_setDomain_ne {h : Hypervisor} {name name' path : String} {d : Option Domain}
    (hne : name' ≠ name) : (h.setDomain name d).Uses name' path ↔ h.Uses name' path := by
  unfold Hypervisor.Uses
  rw [setDomain_ne h hne]

theorem uses_setDomain_self {h : Hypervisor} {name path : String} {d : Option Domain} :
    (h.setDomain name d).Uses name path ↔ ∃ d', d = some d' ∧ d'.defined = true ∧
      d'.UsesFile path := by
  unfold Hypervisor.Uses
  rw [setDomain_self]

/-! ## Calls on a domain -/

/-- The call gives the domain no definition and no disk that it lacked. -/
def Keeps (d : Domain) (d' : Option Domain) : Prop :=
  ∀ x, d' = some x → (x.defined = true → d.defined = true) ∧
    ∀ path, x.UsesFile path → d.UsesFile path

theorem Keeps.of_disks {d x : Domain} (hdefined : x.defined = true → d.defined = true)
    (hdisks : x.disks = d.disks) : Keeps d (some x) := by
  rintro _ ⟨rfl⟩
  refine ⟨hdefined, fun path huses => ?_⟩
  unfold Domain.UsesFile at huses
  rw [hdisks] at huses
  exact huses

theorem Keeps.none (d : Domain) : Keeps d none := by
  intro x hx
  cases hx

theorem Keeps.stop (d : Domain) : Keeps d d.stop := by
  unfold Domain.stop
  split
  · exact .of_disks id rfl
  · exact .none d

section
variable {a : LibvirtAnswers}

theorem DisksOK.setDomain {h : Hypervisor} {name : String} {d : Domain} {d' : Option Domain}
    (hok : DisksOK h) (hd : h.domains name = some d) (hkeeps : Keeps d d') :
    DisksOK (h.setDomain name d') := by
  have huses : ∀ name' path, (h.setDomain name d').Uses name' path → h.Uses name' path := by
    intro name' path hu
    by_cases hne : name' = name
    · subst hne
      obtain ⟨x, rfl, hdef, hpath⟩ := uses_setDomain_self.mp hu
      have hx := hkeeps x rfl
      exact ⟨d, hd, hx.1 hdef, hx.2 path hpath⟩
    · exact (uses_setDomain_ne hne).mp hu
  refine hok.of_uses huses fun name' path hu => ?_
  rw [setDomain_volumes]
  exact hok.exist name' path (huses name' path hu)

theorem domainCall_disks {c : Call} {name : String} {f : Domain → Except String (Option Domain)}
    (hf : ∀ d d', f d = .ok d' → Keeps d d') :
    Triple DisksOK (domainCall a c name f) (fun _ => DisksOK) DisksOK :=
  domainCall_triple (fun _ h => h) fun _ d d' hok _ hd hfd => hok.setDomain hd (hf d d' hfd)

theorem setAutostart_disks (name : String) (b : Bool) :
    Triple DisksOK (setAutostart a name b) (fun _ => DisksOK) DisksOK := by
  refine domainCall_disks fun d d' hf => ?_
  split at hf
  · cases hf
    exact .of_disks id rfl
  · cases hf

theorem create_disks (name : String) :
    Triple DisksOK (create a name) (fun _ => DisksOK) DisksOK := by
  refine domainCall_disks fun d d' hf => ?_
  split at hf
  · cases hf
  · cases hf
    exact .of_disks id rfl

theorem shutdown_disks (name : String) :
    Triple DisksOK (shutdown a name) (fun _ => DisksOK) DisksOK := by
  refine domainCall_disks fun d d' hf => ?_
  split at hf
  · cases hf
    split
    · exact .stop d
    · exact .of_disks id rfl
  · cases hf

theorem reboot_disks (name : String) :
    Triple DisksOK (reboot a name) (fun _ => DisksOK) DisksOK := by
  refine domainCall_disks fun d d' hf => ?_
  split at hf
  · cases hf
    exact .of_disks id rfl
  · cases hf

theorem destroy_disks (name : String) :
    Triple DisksOK (destroy a name) (fun _ => DisksOK) DisksOK := by
  refine domainCall_disks fun d d' hf => ?_
  split at hf
  · cases hf
    exact .stop d
  · cases hf

/-- A CD-ROM drive gets another file; the disks stay. -/
theorem updateDeviceFlags_disks (name xml : String) (live : Bool) :
    Triple DisksOK (updateDeviceFlags a name xml live) (fun _ => DisksOK) DisksOK := by
  refine domainCall_disks fun d d' hf => ?_
  split at hf
  · cases hf
  split at hf
  · cases hf
  split at hf
  · cases hf
    rintro _ ⟨rfl⟩
    refine ⟨id, fun path huses => ?_⟩
    obtain ⟨disk, hmem, hdevice, hrest⟩ := huses
    obtain ⟨disk', hmem', rfl⟩ := List.mem_map.mp hmem
    split at hdevice
    · -- a drive that was changed is a CD-ROM
      next hsame =>
      simp only [DomainDisk.sameDrive, Bool.and_eq_true, beq_iff_eq] at hsame
      exact absurd (hsame.1.1.symm.trans hdevice) (by decide)
    · next hsame =>
      rw [if_neg hsame] at hrest
      exact ⟨disk', hmem', hdevice, hrest⟩
  · cases hf

/-! ## Handlers -/

theorem lookupDomainByName_keeps (P : Hypervisor → Prop) (name : String) :
    Triple P (lookupDomainByName a name) (fun _ => P) P := by
  unfold lookupDomainByName
  refine .guard (fun _ h => h) fun _ => attempt_bind (fun _ h => h) fun _ => ?_
  refine .read fun h hP => .guard ?_ fun _ => .pure ?_
  · rintro _ rfl
    exact hP
  · rintro _ rfl
    exact hP

theorem handleDomainAction_disks (cmd : NodeCommand) {action : String → Libvirt Unit}
    (haction : ∀ name, Triple DisksOK (action name) (fun _ => DisksOK) DisksOK) :
    Triple DisksOK (handleDomainAction a cmd action) (fun _ => DisksOK) DisksOK := by
  unfold handleDomainAction
  split
  · exact .throw fun _ h => h
  · refine attempt_bind (fun _ h => h) fun _ => .bind (lookupDomainByName_keeps _ _) fun name => ?_
    exact .bind (haction name) fun _ => .pure fun _ h => h

theorem handleLibvirtVMSetAutostart_disks (cmd : NodeCommand) :
    Triple DisksOK (handleLibvirtVMSetAutostart a cmd) (fun _ => DisksOK) DisksOK := by
  unfold handleLibvirtVMSetAutostart
  split
  · exact .throw fun _ h => h
  · refine attempt_bind (fun _ h => h) fun _ => .bind (lookupDomainByName_keeps _ _) fun name => ?_
    exact .bind (setAutostart_disks name _) fun _ => .pure fun _ h => h

/-- The device is updated with the flags for the domain as it is. -/
theorem updateCDROM_disks (name xml : String) (result : Json) :
    Triple DisksOK (do
      let h ← get
      updateDeviceFlags a name xml (isActive a name h)
      pure result) (fun _ => DisksOK) DisksOK := by
  refine .read fun h hok => .strengthen ?_ fun _ hh => hh ▸ hok
  exact .bind (updateDeviceFlags_disks name xml _) fun _ => .pure fun _ h => h

theorem handleLibvirtVMAttachISO_disks (cmd : NodeCommand) :
    Triple DisksOK (handleLibvirtVMAttachISO a cmd) (fun _ => DisksOK) DisksOK := by
  unfold handleLibvirtVMAttachISO
  split
  · exact .throw fun _ h => h
  · refine .guard (fun _ h => h) fun _ => attempt_bind (fun _ h => h) fun _ => ?_
    exact .bind (lookupDomainByName_keeps _ _) fun name => updateCDROM_disks name _ _

theorem handleLibvirtVMDetachISO_disks (cmd : NodeCommand) :
    Triple DisksOK (handleLibvirtVMDetachISO a cmd) (fun _ => DisksOK) DisksOK := by
  unfold handleLibvirtVMDetachISO
  split
  · exact .throw fun _ h => h
  · refine attempt_bind (fun _ h => h) fun _ => ?_
    refine .bind (lookupDomainByName_keeps _ _) fun name => ?_
    exact updateCDROM_disks name (buildCDROMDeviceXML "") statusOK

/-! ## Creating -/

/-- There is a volume at the path and no domain has it. -/
structure FreeVolume (h : Hypervisor) (path : String) : Prop where
  disks : DisksOK h
  volume : path ∈ h.volumes
  free : ∀ name, ¬ h.Uses name path

theorem storageVolCreateXML_disks (pool xml : String) :
    Triple DisksOK (storageVolCreateXML a pool xml)
      (fun path h => path = a.path ∧ FreeVolume h path) DisksOK := by
  unfold storageVolCreateXML
  refine attempt_bind (fun _ h => h) fun _ => ?_
  split
  · exact .throw fun _ h => h
  next name _ =>
  refine .read fun h hok => .guard (fun _ hh => hh ▸ hok) fun hfree => ?_
  rw [not_or] at hfree
  refine .bind (.write (Q := fun _ h' => FreeVolume h' a.path) ?_) fun _ =>
    .pure fun _ hfree => ⟨rfl, hfree⟩
  refine ⟨hok.of_uses (fun _ _ hu => hu) fun name path hu => ?_, ?_, fun name hu => ?_⟩
  · exact (AList.mem_insert _).mpr (.inr (hok.exist name path hu))
  · exact (AList.mem_insert _).mpr (.inl rfl)
  · -- a disk at the path would have been a volume before
    exact hfree.2 (hok.exist name _ hu)

theorem createDiskVolume_disks (pool name : String) (size : UInt64) :
    Triple DisksOK (createDiskVolume a pool name size)
      (fun path h => path = a.path ∧ FreeVolume h path) DisksOK := by
  unfold createDiskVolume lookupStoragePoolByName
  refine .guard (fun _ h => h) fun _ => .bind (R := fun _ => DisksOK) ?_ fun _ => ?_
  · refine attempt_bind (fun _ h => h) fun _ => .read fun h hok => ?_
    exact (Triple.refuseIf fun _ hh => hh ▸ hok).weaken fun _ _ hh => hh.1 ▸ hok
  · refine .bind (storageVolCreateXML_disks _ _) fun vol => ?_
    exact attempt_bind (fun _ h => h.2.disks) fun _ => .pure fun _ h => h

theorem usesFile_xmlDisks {params : LibvirtVMCreateParams} {diskPath path : String}
    {d : Domain} (hd : d.disks = xmlDisks params diskPath) (huses : d.UsesFile path) :
    path = Xml.clean diskPath := by
  obtain ⟨disk, hmem, hdevice, -, rfl, -⟩ := huses
  rw [hd, xmlDisks] at hmem
  rcases List.mem_cons.mp hmem with rfl | hmem
  · rfl
  · split at hmem
    · rw [List.mem_singleton] at hmem
      subst hmem
      have hcdrom : "cdrom" = "disk" := hdevice
      exact absurd hcdrom (by decide)
    · cases hmem

/-- A new domain on a free volume. -/
theorem domainDefineXML_disks (params : LibvirtVMCreateParams) {diskPath : String}
    (hplain : PlainPath diskPath) :
    Triple (FreeVolume · diskPath) (domainDefineXML a (buildDomainXML params diskPath))
      (fun _ => DisksOK) DisksOK := by
  rw [domainDefineXML_build]
  refine attempt_bind (fun _ h => h.disks) fun _ => .read fun h hfree => ?_
  refine .bind (.write (Q := fun _ => DisksOK) ?_) fun _ => .pure fun _ h => h
  have hself : ∀ path, (h.setDomain (xmlName params) (some (Domain.redefine
      (h.domains (xmlName params)) (xmlDisks params diskPath)))).Uses (xmlName params) path →
      path = diskPath := by
    intro path hu
    obtain ⟨d, ⟨rfl⟩, -, huses⟩ := uses_setDomain_self.mp hu
    exact (usesFile_xmlDisks rfl huses).trans (Xml.clean_eq_self hplain.text)
  have hused : ∀ name path, (h.setDomain (xmlName params) (some (Domain.redefine
      (h.domains (xmlName params)) (xmlDisks params diskPath)))).Uses name path →
      (name = xmlName params ∧ path = diskPath) ∨ (name ≠ xmlName params ∧ h.Uses name path) := by
    intro name path hu
    by_cases hname : name = xmlName params
    · subst hname
      exact .inl ⟨rfl, hself path hu⟩
    · exact .inr ⟨hname, (uses_setDomain_ne hname).mp hu⟩
  refine ⟨fun name path hu => ?_, fun name path hu => ?_, fun name name' path hu hu' => ?_⟩
  · rw [setDomain_volumes]
    rcases hused name path hu with ⟨-, rfl⟩ | ⟨-, hold⟩
    · exact hfree.volume
    · exact hfree.disks.exist name path hold
  · rcases hused name path hu with ⟨-, rfl⟩ | ⟨-, hold⟩
    · exact hplain.trimmed
    · exact hfree.disks.trimmed name path hold
  · rcases hused name path hu with ⟨rfl, rfl⟩ | ⟨-, hold⟩
    · rcases hused name' path hu' with ⟨rfl, -⟩ | ⟨-, hold'⟩
      · rfl
      · exact absurd hold' (hfree.free name')
    · rcases hused name' path hu' with ⟨-, rfl⟩ | ⟨-, hold'⟩
      · exact absurd hold (hfree.free name)
      · exact hfree.disks.disjoint name name' path hold hold'

theorem handleLibvirtVMCreate_disks (cmd : NodeCommand) (hplain : PlainPath a.path) :
    Triple DisksOK (handleLibvirtVMCreate a cmd) (fun _ => DisksOK) DisksOK := by
  unfold handleLibvirtVMCreate
  split
  · exact .throw fun _ h => h
  · refine .guard (fun _ h => h) fun _ => attempt_bind (fun _ h => h) fun _ => ?_
    refine .bind (createDiskVolume_disks _ _ _) fun diskPath => ?_
    refine ⟨fun h ⟨hpath, hfree⟩ => ?_⟩
    subst hpath
    refine (Triple.bind (domainDefineXML_disks _ hplain) fun domain => ?_).run h hfree
    refine .bind (.doIf (fun _ => setAutostart_disks domain true) fun _ h => h) fun _ => ?_
    exact .bind (.doIf (fun _ => create_disks domain) fun _ h => h) fun _ => .pure fun _ h => h

/-! ## Deleting -/

/-- If the domain is defined, no other domain has one of the files. -/
def Spare (name : String) (paths : List String) (h : Hypervisor) : Prop :=
  ∀ d, h.domains name = some d → d.defined = true →
    ∀ path ∈ paths, ∀ name', name' ≠ name → ¬ h.Uses name' (trimSpace path)

theorem describeDomain_disks (name : String) :
    Triple DisksOK (describeDomain a name) (fun paths h => DisksOK h ∧ Spare name paths h)
      DisksOK := by
  unfold describeDomain
  refine attempt_bind (fun _ h => h) fun _ => .read fun h hok => .pure ?_
  intro h' hh
  subst hh
  refine ⟨hok, fun d hd hdef path hpath name' hne hu => hne ?_⟩
  rw [hd] at hpath
  split at hpath
  · cases hpath
  · have huses : h'.Uses name path := ⟨d, hd, hdef, mem_diskPaths.mp hpath⟩
    rw [hok.trimmed name path huses] at hu
    exact hok.disjoint name name' path huses hu

theorem destroy_spare (name : String) (paths : List String) :
    Triple (fun h => DisksOK h ∧ Spare name paths h) (destroy a name)
      (fun _ h => DisksOK h ∧ Spare name paths h) DisksOK := by
  refine domainCall_triple (fun _ h => h.1) fun h d d' hP _ hd hf => ?_
  split at hf
  swap
  · cases hf
  cases hf
  refine ⟨hP.1.setDomain hd (.stop d), fun x hx hdef path hpath name' hne => ?_⟩
  rw [setDomain_self] at hx
  rw [uses_setDomain_ne hne]
  exact hP.2 d hd ((Keeps.stop d x hx).1 hdef) path hpath name' hne

/-- No defined domain is left that has one of the files. -/
theorem undefineFlags_spare (name : String) (paths : List String) :
    Triple (fun h => DisksOK h ∧ Spare name paths h) (undefineFlags a name)
      (fun _ h => DisksOK h ∧ ∀ path ∈ paths, ∀ name', ¬ h.Uses name' (trimSpace path))
      DisksOK := by
  refine domainCall_triple (fun _ h => h.1) fun h d d' hP _ hd hf => ?_
  split at hf
  swap
  · cases hf
  next hdef =>
  have hgone : ∀ x, d' = some x → x.defined = false ∧ x.disks = d.disks := by
    rintro x rfl
    split at hf
    · cases hf
      exact ⟨rfl, rfl⟩
    · cases hf
  have hkeeps : Keeps d d' := fun x hx => Keeps.of_disks (fun _ => hdef) (hgone x hx).2 x rfl
  refine ⟨hP.1.setDomain hd hkeeps, fun path hpath name' hu => ?_⟩
  by_cases hne : name' = name
  · subst hne
    obtain ⟨x, hx, hxdef, -⟩ := uses_setDomain_self.mp hu
    exact absurd ((hgone x hx).1.symm.trans hxdef) Bool.false_ne_true
  · exact hP.2 d hd hdef path hpath name' hne ((uses_setDomain_ne hne).mp hu)

theorem deleteDomainVolumes_disks (i : Nat) (paths : List String) :
    Triple (fun h => DisksOK h ∧ ∀ path ∈ paths, ∀ name', ¬ h.Uses name' (trimSpace path))
      (deleteDomainVolumes a i paths) (fun _ => DisksOK) DisksOK := by
  induction paths generalizing i with
  | nil => exact .pure fun _ h => h.1
  | cons path paths ih =>
    rw [deleteDomainVolumes]
    refine .read fun h hP => ?_
    have hrest : ∀ path' ∈ paths, ∀ name', ¬ h.Uses name' (trimSpace path') :=
      fun path' hpath' => hP.2 path' (List.mem_cons_of_mem path hpath')
    split
    · refine (ih (i + 1)).strengthen ?_
      rintro _ rfl
      exact ⟨hP.1, hrest⟩
    · refine attempt_bind (fun _ hh => hh ▸ hP.1) fun _ => .bind (.write ?_) fun _ => ih (i + 1)
      -- the volume is nobody's disk
      refine ⟨hP.1.of_uses (fun _ _ hu => hu) fun name' path' hu => ?_, hrest⟩
      refine AList.mem_erase.mpr ⟨?_, hP.1.exist name' path' hu⟩
      rintro rfl
      exact hP.2 path List.mem_cons_self name' hu

theorem handleLibvirtVMDelete_disks (cmd : NodeCommand) :
    Triple DisksOK (handleLibvirtVMDelete a cmd) (fun _ => DisksOK) DisksOK := by
  unfold handleLibvirtVMDelete
  split
  · exact .throw fun _ h => h
  · refine attempt_bind (fun _ h => h) fun _ => .bind (lookupDomainByName_keeps _ _) fun name => ?_
    refine .bind (describeDomain_disks name) fun paths => .read fun h hP => ?_
    refine .strengthen (P := fun h => DisksOK h ∧ Spare name paths h) ?_ fun _ hh => hh ▸ hP
    refine .bind (R := fun _ h => DisksOK h ∧ Spare name paths h) ?_ fun _ => ?_
    · refine .doIf (fun _ => ?_) fun _ h => h
      exact .guard (fun _ h => h.1) fun _ => destroy_spare name paths
    · refine .bind (undefineFlags_spare name paths) fun _ => ?_
      refine .bind (.doIf (fun _ => deleteDomainVolumes_disks 0 paths) fun _ h => h.1) fun _ => ?_
      exact .pure fun _ h => h

end

/-! ## Runs -/

inductive HostEvent where
  /-- the slave runs a node command, with these answers of libvirt -/
  | command (cmd : NodeCommand) (a : LibvirtAnswers)
  /-- a guest powers off by itself -/
  | powerOff (name : String)

def hostStep (h : Hypervisor) : HostEvent → Option Hypervisor
  | .command cmd a => match libvirtHandler (trimSpace cmd.action) with
    | some handler => some (stateOf (handler a cmd h))
    | none => some h
  | .powerOff name => (h.domains name).bind fun d =>
    if d.running then some (h.setDomain name d.stop) else none

/-- A volume that the command makes gets a plain path. -/
def HostEvent.PlainPath : HostEvent → Prop
  | .command _ a => Slave.PlainPath a.path
  | .powerOff _ => True

theorem libvirtHandler_disks {action : String}
    {handler : LibvirtAnswers → NodeCommand → Libvirt Json}
    (hhandler : libvirtHandler action = some handler) {a : LibvirtAnswers}
    (hplain : PlainPath a.path) (cmd : NodeCommand) :
    Triple DisksOK (handler a cmd) (fun _ => DisksOK) DisksOK := by
  unfold libvirtHandler at hhandler
  split at hhandler
  · cases hhandler
    exact handleLibvirtVMCreate_disks cmd hplain
  · cases hhandler
    exact handleDomainAction_disks cmd create_disks
  · cases hhandler
    exact handleDomainAction_disks cmd shutdown_disks
  · cases hhandler
    exact handleDomainAction_disks cmd reboot_disks
  · cases hhandler
    exact handleDomainAction_disks cmd destroy_disks
  · cases hhandler
    exact handleLibvirtVMDelete_disks cmd
  · cases hhandler
    exact handleLibvirtVMSetAutostart_disks cmd
  · cases hhandler
    exact handleLibvirtVMAttachISO_disks cmd
  · cases hhandler
    exact handleLibvirtVMDetachISO_disks cmd
  · cases hhandler

/-- One event keeps the disks apart. -/
theorem hostStep_disks {h h' : Hypervisor} {e : HostEvent} (hok : DisksOK h)
    (hplain : e.PlainPath) (hstep : hostStep h e = some h') : DisksOK h' := by
  match e with
  | .command cmd a =>
    rw [hostStep] at hstep
    split at hstep
    · next handler hhandler =>
      cases hstep
      exact (libvirtHandler_disks hhandler hplain cmd).stateOf h hok
    · cases hstep
      exact hok
  | .powerOff name =>
    obtain ⟨d, hd, hstop⟩ := Option.bind_eq_some_iff.mp hstep
    split at hstop
    · cases hstop
      exact hok.setDomain hd (.stop d)
    · cases hstop

/-- A delete removes only volumes that no other defined domain has. -/
theorem delete_spares_others {h : Hypervisor} {a : LibvirtAnswers} {cmd : NodeCommand}
    {path : String} (hok : DisksOK h) (hdel : deletesVolume h a cmd path) :
    ∃ params d, DeletesDomain h cmd params d ∧
      ∀ name, h.Uses name path → name = trimSpace params.name := by
  obtain ⟨params, d, hent, hun, -, k, hdeleted⟩ := deletesVolume_removed hdel
  refine ⟨params, d, hent.domain, fun name hu => ?_⟩
  obtain ⟨p, hp, rfl⟩ := Option.map_eq_some_iff.mp hdeleted.found.lookedUp.1
  have hmem : p ∈ d.diskPaths := by
    have hreported := List.mem_of_getElem? hp
    unfold reported at hreported
    split at hreported
    · cases hreported
    · exact hreported
  have huses : h.Uses (trimSpace params.name) p :=
    ⟨d, hent.domain.2, hun.defined, mem_diskPaths.mp hmem⟩
  rw [hok.trimmed _ p huses] at hu
  exact hok.disjoint _ name p huses hu

/-- **Machines do not share disks.** From a host where the disks of the
defined domains are volumes, with trimmed paths, and no two domains share
one, every sequence of node commands, with whatever parameters and failures,
and of guests that power off leads to such a host, if new volumes get
plain paths. There a delete removes no volume that another defined domain
has as its disk. -/
theorem disks_stay_disjoint {h₀ h : Hypervisor} (hok : DisksOK h₀) (events : List HostEvent)
    (hplain : ∀ e ∈ events, e.PlainPath) (hrun : run hostStep h₀ events = some h) :
    DisksOK h ∧ ∀ a cmd path, deletesVolume h a cmd path →
      ∃ params d, DeletesDomain h cmd params d ∧
        ∀ name, h.Uses name path → name = trimSpace params.name := by
  have hfinal : DisksOK h := run_invariant_of_meets
    (fun _ _ _ hok hplain hstep => hostStep_disks hok hplain hstep) hok (.of_mem h₀ hplain) hrun
  exact ⟨hfinal, fun a cmd path hdel => delete_spares_others hfinal hdel⟩

theorem hostStep_command (h : Hypervisor) (cmd : NodeCommand) (a : LibvirtAnswers) :
    ∃ h', hostStep h (.command cmd a) = some h' := by
  rw [hostStep]
  split
  · exact ⟨_, rfl⟩
  · exact ⟨h, rfl⟩

/-- A second machine on the host. -/
def createSecond : NodeCommand where
  action := "libvirt.domain.create"
  params := some (LibvirtVMCreateParams.marshal { name := "vm2", isoPath := "/images/vm.qcow2" })

theorem runningHost_disks : DisksOK runningHost := by
  have huses : ∀ name path, runningHost.Uses name path →
      name = "vm" ∧ path = "/images/vm.qcow2" := by
    rintro name path ⟨d, hd, -, disk, hmem, -, -, rfl, -⟩
    unfold runningHost at hd
    dsimp only at hd
    split at hd
    · next hname =>
      cases hd
      rw [List.mem_singleton] at hmem
      subst hmem
      exact ⟨hname, rfl⟩
    · cases hd
  refine ⟨fun name path hu => ?_, fun name path hu => ?_, fun name name' path hu hu' => ?_⟩
  · rw [(huses name path hu).2]
    exact List.mem_singleton_self _
  · rw [(huses name path hu).2]
    decide
  · rw [(huses name path hu).1, (huses name' path hu').1]

/-- A machine is created whose CD-ROM names the first one's disk, and then
the first one is deleted. -/
theorem disks_stay_disjoint_second :
    ∃ h, run hostStep runningHost [.command createSecond unseeing, .command deleteVM unseeing] =
      some h ∧ DisksOK h := by
  obtain ⟨h₁, hcreate⟩ := hostStep_command runningHost createSecond unseeing
  obtain ⟨h₂, hdelete⟩ := hostStep_command h₁ deleteVM unseeing
  have hrun : run hostStep runningHost
      [.command createSecond unseeing, .command deleteVM unseeing] = some h₂ :=
    run_cons_eq_some.mpr ⟨h₁, hcreate, run_cons_eq_some.mpr ⟨h₂, hdelete, rfl⟩⟩
  have hplain : PlainPath unseeing.path := ⟨by decide, by decide⟩
  refine ⟨h₂, hrun, (disks_stay_disjoint runningHost_disks _ ?_ hrun).1⟩
  simp only [List.forall_mem_cons, HostEvent.PlainPath, hplain, List.not_mem_nil, true_and,
    IsEmpty.forall_iff, implies_true]

end Centralisd.Slave
