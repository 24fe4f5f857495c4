import Centralisd.Slave.Docker
import Centralisd.Slave.Libvirt

/-!
# Centralisd — creating is not atomic

`handleLibvirtVMCreate` makes a volume, asks for its path, defines a domain,
sets its autostart and starts it; `handleDockerContainerCreate` creates a
container and starts it. Neither takes back what it has made when a later
call fails.

* `create_atomic_iff` — a create that ends in an error leaves everything as
  it was exactly when the volume, or the container, was not made or no later
  call fails.
-/

namespace Centralisd.Slave

open Effect

/-! ## A domain -/

/-- `CreateDiskVolume` gets as far as making the volume. -/
structure VolumeMade (h : Hypervisor) (a : LibvirtAnswers) (params : LibvirtVMCreateParams) :
    Prop where
  diskName : trimSpace params.diskName ≠ ""
  lookup : a.fails .lookupStoragePoolByName = none
  pool : poolOrDefault params.diskPool ∈ h.pools
  create : a.fails .storageVolCreateXML = none
  newName : h.hasVolume (poolOrDefault params.diskPool) (Xml.clean (volumeName params.diskName)) =
    false
  newPath : a.path ∉ h.volumes

/-- The hypervisor with the volume. -/
def withVolume (h : Hypervisor) (a : LibvirtAnswers) (params : LibvirtVMCreateParams) :
    Hypervisor :=
  let volume : Volume := ⟨poolOrDefault params.diskPool, Xml.clean (volumeName params.diskName)⟩
  { h with volumes := h.volumes.insert a.path volume }

/-- A domain of the name that libvirt reads is running. -/
def nameRuns (h : Hypervisor) (params : LibvirtVMCreateParams) : Bool :=
  (h.domains (xmlName params)).elim false Domain.running

/-- A call after the volume's creation fails. -/
def LaterFails (h : Hypervisor) (a : LibvirtAnswers) (params : LibvirtVMCreateParams) : Prop :=
  a.fails .getPath ≠ none ∨ a.fails .domainDefineXML ≠ none ∨
    (params.autostart = true ∧ a.fails .setAutostart ≠ none) ∨
    (params.start = true ∧ (a.fails .create ≠ none ∨ nameRuns h params = true))

/-- The create is let through to `CreateDiskVolume`, with these parameters. -/
structure CreateEnters (a : LibvirtAnswers) (cmd : NodeCommand) (params : LibvirtVMCreateParams) :
    Prop where
  decoded : (unmarshalParams LibvirtVMCreateParams.unmarshal cmd).map namedParams = some params
  name : params.name ≠ ""
  getQEMU : a.fails .getQEMU = none

/-- The volume is made and a later call fails. -/
def HalfCreated (h : Hypervisor) (a : LibvirtAnswers) (cmd : NodeCommand) : Prop :=
  ∃ params, CreateEnters a cmd params ∧ VolumeMade h a params ∧ LaterFails h a params

/-- A create that ends in an error leaves the volumes and domains as they
were, and the same create is refused afterwards only if it would have been
refused before. -/
def VMCreateAtomic (h : Hypervisor) (a : LibvirtAnswers) (cmd : NodeCommand) : Prop :=
  ∀ err h', handleLibvirtVMCreate a cmd h = .error err h' →
    (∀ path, h'.volumes.lookup path = h.volumes.lookup path) ∧ h'.domains = h.domains ∧
      ∀ a' err' h'', handleLibvirtVMCreate a' cmd h' = .error err' h'' →
        ∃ h₀, handleLibvirtVMCreate a' cmd h = .error err' h₀

section
variable {h : Hypervisor} {a : LibvirtAnswers} {cmd : NodeCommand} {params : LibvirtVMCreateParams}

theorem storageVolCreateXML_made (hmade : VolumeMade h a params) :
    storageVolCreateXML a (poolOrDefault params.diskPool)
      (volumeXML params.diskName params.diskSizeGB) h = .ok a.path (withVolume h a params) := by
  have hfree : ¬ (h.hasVolume (poolOrDefault params.diskPool)
      (Xml.clean (volumeName params.diskName)) = true ∨ a.path ∈ h.volumes) := by
    rw [hmade.newName, not_or]
    exact ⟨Bool.false_ne_true, hmade.newPath⟩
  rw [storageVolCreateXML, bind_ok (attempt_ok hmade.create h), readVolume_volumeXML]
  dsimp only
  rw [get_bind, bind_ok (refuseIf_neg hfree _ h)]
  rfl

/-- Up to the volume's creation nothing is changed, and it is made or the
function fails. -/
theorem createDiskVolume_cases (h : Hypervisor) (a : LibvirtAnswers)
    (params : LibvirtVMCreateParams) :
    (VolumeMade h a params ∧
      createDiskVolume a params.diskPool params.diskName params.diskSizeGB h =
        (attempt a .getPath >>= fun _ => pure a.path) (withVolume h a params)) ∨
    (¬ VolumeMade h a params ∧ ∃ err,
      createDiskVolume a params.diskPool params.diskName params.diskSizeGB h = .error err h) := by
  unfold createDiskVolume
  by_cases hname : trimSpace params.diskName = ""
  · exact .inr ⟨fun hmade => hmade.diskName hname, _, bind_error (refuseIf_pos hname _ h)⟩
  rw [bind_ok (refuseIf_neg hname _ h)]
  -- the pool
  unfold lookupStoragePoolByName
  cases hlookup : a.fails .lookupStoragePoolByName with
  | some err =>
    refine .inr ⟨fun hmade => absurd hmade.lookup (by simp [hlookup]), err, ?_⟩
    exact bind_error (bind_error (attempt_error hlookup h))
  | none =>
  by_cases hpool : poolOrDefault params.diskPool ∈ h.pools
  swap
  · refine .inr ⟨fun hmade => hpool hmade.pool, "Storage pool not found", bind_error ?_⟩
    rw [bind_ok (attempt_ok hlookup h), get_bind]
    exact refuseIf_pos hpool _ h
  have hfound : (attempt a .lookupStoragePoolByName >>= fun _ => get >>= fun h : Hypervisor =>
      refuseIf (poolOrDefault params.diskPool ∉ h.pools) "Storage pool not found") h =
      .ok () h := by
    rw [bind_ok (attempt_ok hlookup h), get_bind]
    exact refuseIf_neg (not_not.mpr hpool) _ h
  rw [bind_ok hfound]
  -- the volume
  by_cases hmade : VolumeMade h a params
  · exact .inl ⟨hmade, bind_ok (storageVolCreateXML_made hmade)⟩
  · refine .inr ⟨hmade, ?_⟩
    have hfail : ∃ err, storageVolCreateXML a (poolOrDefault params.diskPool)
        (volumeXML params.diskName params.diskSizeGB) h = .error err h := by
      unfold storageVolCreateXML
      cases hcreate : a.fails .storageVolCreateXML with
      | some err => exact ⟨err, bind_error (attempt_error hcreate h)⟩
      | none =>
        rw [bind_ok (attempt_ok hcreate h), readVolume_volumeXML]
        have htaken : h.hasVolume (poolOrDefault params.diskPool)
            (Xml.clean (volumeName params.diskName)) = true ∨ a.path ∈ h.volumes := by
          by_contra hfree
          rw [not_or, Bool.not_eq_true] at hfree
          exact hmade ⟨hname, hlookup, hpool, hcreate, hfree.1, hfree.2⟩
        dsimp only
        rw [get_bind]
        exact ⟨_, bind_error (refuseIf_pos htaken _ h)⟩
    obtain ⟨err, herr⟩ := hfail
    exact ⟨err, bind_error herr⟩

/-- `handleLibvirtVMCreate` after `CreateDiskVolume`. -/
def finishCreate (a : LibvirtAnswers) (params : LibvirtVMCreateParams) (diskPath : String) :
    Libvirt Json := do
  let domain ← domainDefineXML a (buildDomainXML params diskPath)
  doIf params.autostart (setAutostart a domain true)
  doIf params.start (create a domain)
  pure (createResult a params diskPath)

/-- A create that is not let through, or makes no volume, changes nothing. -/
theorem handleLibvirtVMCreate_enters (hent : CreateEnters a cmd params) :
    handleLibvirtVMCreate a cmd h =
      (createDiskVolume a params.diskPool params.diskName params.diskSizeGB >>=
        finishCreate a params) h := by
  obtain ⟨raw, hraw, rfl⟩ := Option.map_eq_some_iff.mp hent.decoded
  unfold handleLibvirtVMCreate
  rw [hraw]
  show (refuseIf ((namedParams raw).name = "") "vm name is required" >>= _) h = _
  rw [bind_ok (refuseIf_neg hent.name _ h), bind_ok (attempt_ok hent.getQEMU h)]
  rfl

theorem handleLibvirtVMCreate_refused (hent : ∀ params, ¬ CreateEnters a cmd params) :
    ∃ err, handleLibvirtVMCreate a cmd h = .error err h := by
  unfold handleLibvirtVMCreate
  cases hraw : unmarshalParams LibvirtVMCreateParams.unmarshal cmd with
  | none => exact ⟨_, rfl⟩
  | some raw =>
    by_cases hname : (namedParams raw).name = ""
    · exact ⟨_, bind_error (refuseIf_pos hname _ h)⟩
    · show ∃ err, (refuseIf ((namedParams raw).name = "") "vm name is required" >>= _) h = _
      rw [bind_ok (refuseIf_neg hname _ h)]
      cases hqemu : a.fails .getQEMU with
      | some err => exact ⟨err, bind_error (attempt_error hqemu h)⟩
      | none =>
        have henters : CreateEnters a cmd (namedParams raw) := ⟨by rw [hraw]; rfl, hname, hqemu⟩
        exact absurd henters (hent _)

/-- The calls after `CreateDiskVolume` leave the volumes alone. -/
theorem finishCreate_volumes (a : LibvirtAnswers) (params : LibvirtVMCreateParams)
    (diskPath : String) (volumes : AList fun _ : String => Volume) :
    Triple (fun h => h.volumes = volumes) (finishCreate a params diskPath)
      (fun _ h => h.volumes = volumes) (fun h => h.volumes = volumes) := by
  have hcall : ∀ (c : Call) (name : String) (f : Domain → Except String (Option Domain)),
      Triple (fun h => h.volumes = volumes) (domainCall a c name f)
        (fun _ h => h.volumes = volumes) (fun h => h.volumes = volumes) := fun c name f =>
    domainCall_triple (fun _ hv => hv) fun h d d' hv _ _ _ =>
      (setDomain_volumes h name d').trans hv
  refine .bind (R := fun _ h => h.volumes = volumes) ?_ fun name => ?_
  · rw [domainDefineXML_build]
    refine attempt_bind (fun _ hv => hv) fun _ => .read fun h hv => ?_
    refine .bind (.write (Q := fun _ h' => h'.volumes = volumes) ?_) fun _ => .pure fun _ h => h
    exact (setDomain_volumes ..).trans hv
  · refine .bind (.doIf (fun _ => hcall _ _ _) fun _ h => h) fun _ => ?_
    exact .bind (.doIf (fun _ => hcall _ _ _) fun _ h => h) fun _ => .pure fun _ h => h

theorem doIf_setAutostart {name : String} {d : Domain} (hd : h.domains name = some d)
    (hdef : d.defined = true) (b : Bool) :
    (b = true ∧ a.fails .setAutostart ≠ none ∧
      ∃ err, doIf b (setAutostart a name true) h = .error err h) ∨
    (¬ (b = true ∧ a.fails .setAutostart ≠ none) ∧ ∃ h' d',
      doIf b (setAutostart a name true) h = .ok () h' ∧ h'.domains name = some d' ∧
        d'.running = d.running) := by
  cases b with
  | false => exact .inr ⟨fun hb => absurd hb.1 Bool.false_ne_true, h, d, rfl, hd, rfl⟩
  | true =>
    rw [doIf_true]
    by_cases hc : a.fails .setAutostart = none
    · have hrun : setAutostart a name true h =
          .ok () (h.setDomain name (some { d with autostart := true })) :=
        domainCall_ok hc hd (if_pos hdef)
      refine .inr ⟨fun hb => hb.2 hc, _, { d with autostart := true }, hrun, ?_, rfl⟩
      exact setDomain_self ..
    · exact .inl ⟨rfl, hc, domainCall_refused (.inl hc)⟩

/-- The domain is started unless it is running already. -/
theorem doIf_create_error_iff {name : String} {d : Domain} (hd : h.domains name = some d)
    (b : Bool) (result : Json) :
    (∃ err h', (doIf b (create a name) >>= fun _ => pure result) h = .error err h') ↔
      b = true ∧ (a.fails .create ≠ none ∨ d.running = true) := by
  cases b with
  | false =>
    constructor
    · rintro ⟨err, h', hrun⟩
      cases hrun
    · exact fun hb => absurd hb.1 Bool.false_ne_true
  | true =>
    rw [doIf_true]
    by_cases hfail : a.fails .create ≠ none ∨ d.running = true
    · refine iff_of_true ?_ ⟨rfl, hfail⟩
      have hrefused : ∃ err, create a name h = .error err h := by
        refine domainCall_refused (hfail.imp id fun hrun d' hd' => ?_)
        cases hd.symm.trans hd'
        exact ⟨_, if_pos hrun⟩
      obtain ⟨err, herr⟩ := hrefused
      exact ⟨err, h, bind_error herr⟩
    · refine iff_of_false ?_ fun hb => hfail hb.2
      rw [not_or, not_not] at hfail
      rintro ⟨err, h', hrun⟩
      have hok : create a name h = .ok () (h.setDomain name (some { d with running := true })) :=
        domainCall_ok hfail.1 hd (if_neg hfail.2)
      rw [bind_ok hok] at hrun
      cases hrun

theorem finishCreate_error_iff (diskPath : String) :
    (∃ err h', finishCreate a params diskPath h = .error err h') ↔
      a.fails .domainDefineXML ≠ none ∨ (params.autostart = true ∧ a.fails .setAutostart ≠ none) ∨
        (params.start = true ∧ (a.fails .create ≠ none ∨ nameRuns h params = true)) := by
  unfold finishCreate
  cases hdef : a.fails .domainDefineXML with
  | some err =>
    have hrun : domainDefineXML a (buildDomainXML params diskPath) h = .error err h :=
      bind_error (attempt_error hdef h)
    exact iff_of_true ⟨err, h, bind_error hrun⟩ (.inl (by simp))
  | none =>
    -- the domain is defined, and runs if one of its name did
    obtain ⟨h₁, d, hrun, hd, hdefined, hruns⟩ : ∃ h₁ d,
        domainDefineXML a (buildDomainXML params diskPath) h = .ok (xmlName params) h₁ ∧
        h₁.domains (xmlName params) = some d ∧ d.defined = true ∧
        d.running = nameRuns h params := by
      rw [domainDefineXML_build, bind_ok (attempt_ok hdef h)]
      refine ⟨_, _, rfl, setDomain_self .., rfl, ?_⟩
      unfold nameRuns
      cases h.domains (xmlName params) <;> rfl
    rw [bind_ok hrun, ← hruns]
    rcases doIf_setAutostart (a := a) hd hdefined params.autostart with
      ⟨hb, hc, err, herr⟩ | ⟨hno, h₂, d', hok, hd', hruns'⟩
    · exact iff_of_true ⟨err, h₁, bind_error herr⟩ (.inr (.inl ⟨hb, hc⟩))
    · rw [bind_ok hok, doIf_create_error_iff hd', hruns']
      constructor
      · exact fun hs => .inr (.inr hs)
      · rintro (hn | hn | hs)
        · exact absurd rfl hn
        · exact absurd hn hno
        · exact hs

end

/-! ### After the volume -/

section
variable {h : Hypervisor} {a : LibvirtAnswers} {cmd : NodeCommand} {params : LibvirtVMCreateParams}

theorem CreateEnters.unique {params' : LibvirtVMCreateParams} (hent : CreateEnters a cmd params)
    (hent' : CreateEnters a cmd params') : params' = params :=
  Option.some.inj (hent'.decoded.symm.trans hent.decoded)

theorem withVolume_lookup : (withVolume h a params).volumes.lookup a.path ≠ none := by
  unfold withVolume
  rw [AList.lookup_insert]
  exact Option.some_ne_none _

/-- Once the volume is made, the create fails exactly if a later call does. -/
theorem handleLibvirtVMCreate_error_iff (hent : CreateEnters a cmd params)
    (hvol : createDiskVolume a params.diskPool params.diskName params.diskSizeGB h =
      (attempt a .getPath >>= fun _ => pure a.path) (withVolume h a params)) :
    (∃ err h', handleLibvirtVMCreate a cmd h = .error err h') ↔ LaterFails h a params := by
  rw [handleLibvirtVMCreate_enters hent]
  unfold LaterFails
  cases hpath : a.fails .getPath with
  | some err =>
    have herr : createDiskVolume a params.diskPool params.diskName params.diskSizeGB h =
        .error err (withVolume h a params) := by
      rw [hvol]
      exact bind_error (attempt_error hpath _)
    exact iff_of_true ⟨err, withVolume h a params, bind_error herr⟩ (.inl (by simp))
  | none =>
    have hok : createDiskVolume a params.diskPool params.diskName params.diskSizeGB h =
        .ok a.path (withVolume h a params) := by
      rw [hvol, bind_ok (attempt_ok hpath _)]
      rfl
    rw [bind_ok hok, finishCreate_error_iff]
    simp only [ne_eq, not_true_eq_false, false_or]
    rfl

/-- Once the volume is made, no failure takes it away. -/
theorem handleLibvirtVMCreate_stays (hent : CreateEnters a cmd params)
    (hvol : createDiskVolume a params.diskPool params.diskName params.diskSizeGB h =
      (attempt a .getPath >>= fun _ => pure a.path) (withVolume h a params))
    {err : String} {h' : Hypervisor} (herr : handleLibvirtVMCreate a cmd h = .error err h') :
    h'.volumes = (withVolume h a params).volumes := by
  have hpath : Triple (fun h' => h'.volumes = (withVolume h a params).volumes)
      (attempt a .getPath >>= fun _ => pure a.path)
      (fun _ h' => h'.volumes = (withVolume h a params).volumes)
      (fun h' => h'.volumes = (withVolume h a params).volumes) :=
    attempt_bind (fun _ hv => hv) fun _ => .pure fun _ hv => hv
  have hcreate : Triple (· = h)
      (createDiskVolume a params.diskPool params.diskName params.diskSizeGB >>=
        finishCreate a params)
      (fun _ h' => h'.volumes = (withVolume h a params).volumes)
      (fun h' => h'.volumes = (withVolume h a params).volumes) :=
    (hpath.of_run_eq hvol rfl).bind fun diskPath =>
      finishCreate_volumes a params diskPath (withVolume h a params).volumes
  rw [handleLibvirtVMCreate_enters hent] at herr
  exact hcreate.of_error rfl herr

end

/-- A virtual machine's create is atomic unless the volume is made and a
later call fails. -/
theorem vmCreateAtomic_iff (h : Hypervisor) (a : LibvirtAnswers) (cmd : NodeCommand) :
    VMCreateAtomic h a cmd ↔ ¬ HalfCreated h a cmd := by
  by_cases hent : ∃ params, CreateEnters a cmd params
  swap
  · -- refused before anything is asked of libvirt
    rw [not_exists] at hent
    obtain ⟨err, herr⟩ := handleLibvirtVMCreate_refused (h := h) hent
    refine iff_of_true ?_ fun ⟨params, hparams, _⟩ => hent params hparams
    intro err' h' hrun
    rw [herr] at hrun
    cases hrun
    exact ⟨fun _ => rfl, rfl, fun _ _ h'' hretry => ⟨h'', hretry⟩⟩
  obtain ⟨params, hent⟩ := hent
  rcases createDiskVolume_cases h a params with
    ⟨hmade, hvol⟩ | ⟨hnot, err, herr⟩
  swap
  · -- no volume, no change
    have hrun := handleLibvirtVMCreate_enters (h := h) hent
    rw [bind_error herr] at hrun
    refine iff_of_true ?_ ?_
    · intro err' h' hrun'
      rw [hrun] at hrun'
      cases hrun'
      exact ⟨fun _ => rfl, rfl, fun _ _ h'' hretry => ⟨h'', hretry⟩⟩
    · rintro ⟨params', hparams', hmade, -⟩
      exact hnot (hent.unique hparams' ▸ hmade)
  -- the volume is there, and stays
  have hhalf : HalfCreated h a cmd ↔ LaterFails h a params := by
    constructor
    · rintro ⟨params', hparams', -, hlater⟩
      exact hent.unique hparams' ▸ hlater
    · exact fun hlater => ⟨params, hent, hmade, hlater⟩
  rw [hhalf, ← handleLibvirtVMCreate_error_iff hent hvol]
  constructor
  · rintro hatomic ⟨err, h', herr⟩
    have hlookup := (hatomic err h' herr).1 a.path
    rw [handleLibvirtVMCreate_stays hent hvol herr] at hlookup
    have hin : h.volumes.lookup a.path ≠ none := hlookup ▸ withVolume_lookup
    exact hmade.newPath (AList.lookup_isSome.mp (Option.ne_none_iff_isSome.mp hin))
  · intro hno err h' herr
    exact absurd ⟨err, h', herr⟩ hno

/-! ## A container -/

/-- `ContainerCreate` is reached and makes the container. -/
structure ContainerMade (s : Docker) (moby : Moby) (a : DockerAnswers) (cmd : NodeCommand)
    (params : DockerContainerCreateParams) (ports : List String) : Prop where
  decoded : cmd.params.bind DockerContainerCreateParams.unmarshal = some params
  image : trimSpace params.image ≠ ""
  getClient : a.fails .getClient = none
  ports : parsePorts moby params.ports = .ok ports
  restartPolicy : checkRestartPolicy moby params.restartPolicy = none
  create : a.fails .containerCreate = none
  newName : trimSpace params.name = "" ∨ s.hasName (trimSpace params.name) = false
  newID : a.id ∉ s.containers

/-- The container is made and is not started. -/
def HalfContainer (s : Docker) (moby : Moby) (a : DockerAnswers) (cmd : NodeCommand) : Prop :=
  ∃ params ports, ContainerMade s moby a cmd params ports ∧ params.start = true ∧
    a.fails .containerStart ≠ none

/-- A create that ends in an error leaves the containers as they were, and
the same create is refused afterwards only if it would have been before. -/
def ContainerCreateAtomic (s : Docker) (moby : Moby) (a : DockerAnswers) (cmd : NodeCommand) :
    Prop :=
  ∀ err s', handleDockerContainerCreate moby a cmd s = .error err s' →
    (∀ id, s'.containers.lookup id = s.containers.lookup id) ∧
      ∀ a' err' s'', handleDockerContainerCreate moby a' cmd s' = .error err' s'' →
        ∃ s₀, handleDockerContainerCreate moby a' cmd s = .error err' s₀

section
variable {s : Docker} {moby : Moby} {a : DockerAnswers} {cmd : NodeCommand}
  {params : DockerContainerCreateParams} {ports : List String}

theorem dockerAttempt_ok {c : DockerCall} (hc : a.fails c = none) (s : Docker) :
    dockerAttempt a c s = .ok () s := by
  rw [dockerAttempt, hc]
  rfl

theorem dockerAttempt_error {c : DockerCall} {err : String} (hc : a.fails c = some err)
    (s : Docker) : dockerAttempt a c s = .error err s := by
  rw [dockerAttempt, hc]
  rfl

def withContainer (s : Docker) (a : DockerAnswers) (options : ContainerOptions) : Docker :=
  { s with containers := s.containers.insert a.id ⟨options, false⟩ }

/-- Up to `ContainerCreate` nothing is changed, and the container is made or
the handler fails. -/
theorem handleDockerContainerCreate_cases (s : Docker) (moby : Moby) (a : DockerAnswers)
    (cmd : NodeCommand) :
    (∃ params ports, ContainerMade s moby a cmd params ports ∧
      handleDockerContainerCreate moby a cmd s =
        (doIf params.start (containerStart a a.id) >>= fun _ =>
          pure (containerCreateResult a a.id)) (withContainer s a (containerOptions params ports))) ∨
    ((¬ ∃ params ports, ContainerMade s moby a cmd params ports) ∧
      ∃ err, handleDockerContainerCreate moby a cmd s = .error err s) := by
  unfold handleDockerContainerCreate
  cases hdec : cmd.params.bind DockerContainerCreateParams.unmarshal with
  | none =>
    refine .inr ⟨?_, _, rfl⟩
    rintro ⟨params, ports, hmade⟩
    exact absurd (hdec.symm.trans hmade.decoded) (by simp)
  | some params =>
  have hsame : ∀ {params' ports}, ContainerMade s moby a cmd params' ports → params' = params :=
    fun hmade => Option.some.inj (hmade.decoded.symm.trans hdec)
  dsimp only
  by_cases himage : trimSpace params.image = ""
  · refine .inr ⟨?_, _, bind_error (refuseIf_pos himage _ s)⟩
    rintro ⟨params', ports, hmade⟩
    exact hmade.image (hsame hmade ▸ himage)
  rw [bind_ok (refuseIf_neg himage _ s)]
  cases hclient : a.fails .getClient with
  | some err =>
    refine .inr ⟨?_, err, bind_error (dockerAttempt_error hclient s)⟩
    rintro ⟨params', ports, hmade⟩
    exact absurd (hclient.symm.trans hmade.getClient) (by simp)
  | none =>
  rw [bind_ok (dockerAttempt_ok hclient s)]
  cases hports : parsePorts moby params.ports with
  | error err =>
    refine .inr ⟨?_, err, rfl⟩
    rintro ⟨params', ports, hmade⟩
    exact absurd (hports.symm.trans (hsame hmade ▸ hmade.ports)) (by simp)
  | ok ports =>
  cases hpolicy : checkRestartPolicy moby params.restartPolicy with
  | some err =>
    refine .inr ⟨?_, err, rfl⟩
    rintro ⟨params', ports, hmade⟩
    exact absurd (hpolicy.symm.trans (hsame hmade ▸ hmade.restartPolicy)) (by simp)
  | none =>
  dsimp only
  unfold containerCreate
  cases hcreate : a.fails .containerCreate with
  | some err =>
    refine .inr ⟨?_, err, bind_error (bind_error (dockerAttempt_error hcreate s))⟩
    rintro ⟨params', ports, hmade⟩
    exact absurd (hcreate.symm.trans hmade.create) (by simp)
  | none =>
  by_cases htaken : ((containerOptions params ports).name ≠ "" ∧
      s.hasName (containerOptions params ports).name = true) ∨ a.id ∈ s.containers
  · refine .inr ⟨?_, "Conflict", bind_error ?_⟩
    · rintro ⟨params', ports, hmade⟩
      obtain rfl := hsame hmade
      rcases htaken with ⟨hne, hname⟩ | hid
      · rcases hmade.newName with h | h
        · exact hne h
        · exact absurd (hname.symm.trans h) (by simp)
      · exact hmade.newID hid
    · rw [bind_ok (dockerAttempt_ok hcreate s), get_bind]
      exact bind_error (refuseIf_pos htaken _ s)
  · refine .inl ⟨params, ports, ?_, bind_ok ?_⟩
    · rw [not_or, not_and_or, not_not, Bool.not_eq_true] at htaken
      exact ⟨hdec, himage, hclient, hports, hpolicy, hcreate, htaken.1, htaken.2⟩
    · rw [bind_ok (dockerAttempt_ok hcreate s), get_bind, bind_ok (refuseIf_neg htaken _ s)]
      rfl

end

/-- A container's create is atomic unless the container is made and is not
started. -/
theorem containerCreateAtomic_iff (s : Docker) (moby : Moby) (a : DockerAnswers)
    (cmd : NodeCommand) :
    ContainerCreateAtomic s moby a cmd ↔ ¬ HalfContainer s moby a cmd := by
  rcases handleDockerContainerCreate_cases s moby a cmd with
    ⟨params, ports, hmade, hrun⟩ | ⟨hnot, err, herr⟩
  swap
  · refine iff_of_true ?_ fun ⟨params, ports, hmade, _⟩ => hnot ⟨params, ports, hmade⟩
    intro err' s' hrun
    rw [herr] at hrun
    cases hrun
    exact ⟨fun _ => rfl, fun _ _ s'' hretry => ⟨s'', hretry⟩⟩
  have hhalf : HalfContainer s moby a cmd ↔
      params.start = true ∧ a.fails .containerStart ≠ none := by
    constructor
    · rintro ⟨params', ports', hmade', hlater⟩
      exact Option.some.inj (hmade'.decoded.symm.trans hmade.decoded) ▸ hlater
    · exact fun hlater => ⟨params, ports, hmade, hlater⟩
  rw [hhalf]
  cases hstart : params.start with
  | false =>
    -- it is not to be started: the handler succeeds
    rw [hstart] at hrun
    refine iff_of_true ?_ fun hb => absurd hb.1 Bool.false_ne_true
    intro err s' herr
    rw [hrun] at herr
    cases herr
  | true =>
    rw [hstart, doIf_true] at hrun
    cases hfail : a.fails .containerStart with
    | none =>
      have hfound : (withContainer s a (containerOptions params ports)).containers.lookup a.id =
          some ⟨containerOptions params ports, false⟩ := AList.lookup_insert ..
      refine iff_of_true ?_ fun hb => hb.2 rfl
      intro err s' herr
      have hstarted : ∃ s₁, containerStart a a.id
          (withContainer s a (containerOptions params ports)) = .ok () s₁ := by
        unfold containerStart
        rw [bind_ok (dockerAttempt_ok hfail _), get_bind, hfound]
        exact ⟨_, rfl⟩
      obtain ⟨s₁, hstarted⟩ := hstarted
      rw [hrun, bind_ok hstarted] at herr
      cases herr
    | some err =>
      have herr : handleDockerContainerCreate moby a cmd s =
          .error err (withContainer s a (containerOptions params ports)) := by
        rw [hrun]
        exact bind_error (bind_error (dockerAttempt_error hfail _))
      refine iff_of_false ?_ fun hno => hno ⟨rfl, by simp⟩
      intro hatomic
      have hlookup := (hatomic _ _ herr).1 a.id
      have hin : (withContainer s a (containerOptions params ports)).containers.lookup a.id ≠
          none := by
        unfold withContainer
        rw [AList.lookup_insert]
        exact Option.some_ne_none _
      exact hmade.newID (AList.lookup_isSome.mp (Option.ne_none_iff_isSome.mp (hlookup ▸ hin)))

/-- **Creating is atomic exactly when nothing is left half done.** For every
hypervisor and docker daemon, every command and every pattern of failures:

1. `handleLibvirtVMCreate` undoes what it did, or did nothing, whenever it
   returns an error, exactly when it is not the case that the volume is made
   and a later call fails;
2. `handleDockerContainerCreate` does so exactly when it is not the case that
   the container is made, is to be started, and its start fails. -/
theorem create_atomic_iff :
    (∀ (h : Hypervisor) (a : LibvirtAnswers) (cmd : NodeCommand),
      VMCreateAtomic h a cmd ↔ ¬ HalfCreated h a cmd) ∧
    ∀ (s : Docker) (moby : Moby) (a : DockerAnswers) (cmd : NodeCommand),
      ContainerCreateAtomic s moby a cmd ↔ ¬ HalfContainer s moby a cmd :=
  ⟨vmCreateAtomic_iff, containerCreateAtomic_iff⟩

/-! ## Leftovers -/

/-- A host with one empty pool. -/
def emptyHost : Hypervisor where
  pools := ["default"]
  volumes := ∅
  domains := fun _ => none

/-- libvirt makes volumes and refuses to define the domain. -/
def undefinable : LibvirtAnswers where
  fails c := if c = .domainDefineXML then some "internal error" else none
  path := "/images/vm.qcow2"

def createVM : NodeCommand where
  action := "libvirt.domain.create"
  params := some (LibvirtVMCreateParams.marshal { name := "vm", memoryMB := 1024, vcpus := 1 })

def createContainer : NodeCommand where
  action := "docker.container.create"
  params := some (DockerContainerCreateParams.marshal { image := "nginx", start := true })

/-- The daemon creates the container and cannot start it. -/
def unstartable : DockerAnswers where
  fails c := if c = .containerStart then some "port is already allocated" else none
  id := "4f66"

/-- Each create fails after it has made something, and leaves it behind. -/
theorem create_leaves_behind :
    HalfCreated emptyHost undefinable createVM ∧
      ¬ VMCreateAtomic emptyHost undefinable createVM ∧
      ¬ ContainerCreateAtomic ⟨∅⟩ ⟨some, fun _ => none⟩ unstartable createContainer := by
  have hhalf : HalfCreated emptyHost undefinable createVM := by
    refine ⟨namedParams { name := "vm", memoryMB := 1024, vcpus := 1 }, ⟨?_, by decide, rfl⟩,
      ⟨by decide, rfl, by decide, rfl, rfl, AList.notMem_empty _⟩,
      .inr (.inl (by simp [undefinable]))⟩
    show ((some _).bind _).map namedParams = _
    rw [Option.bind_some, LibvirtVMCreateParams.unmarshal_marshal, Option.map_some]
  refine ⟨hhalf, fun hatomic => (vmCreateAtomic_iff _ _ _).mp hatomic hhalf, ?_⟩
  intro hatomic
  refine (containerCreateAtomic_iff _ _ _ _).mp hatomic ⟨{ image := "nginx", start := true }, [], ?_,
    rfl, by simp [unstartable]⟩
  have hdec : createContainer.params.bind DockerContainerCreateParams.unmarshal =
      some { image := "nginx", start := true } := by
    show (some _).bind _ = _
    rw [Option.bind_some, DockerContainerCreateParams.unmarshal_marshal]
  exact ⟨hdec, by decide, rfl, rfl, rfl, rfl, .inl (by decide), AList.notMem_empty _⟩

end Centralisd.Slave
