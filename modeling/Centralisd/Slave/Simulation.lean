import Centralisd.Lib.Foresight
import Centralisd.Slave.Disks
import Centralisd.Slave.Footprint

/-!
# Centralisd — the process on a hypervisor

The handlers are there twice: as programs over a hypervisor that are given
the failures of their calls (`Slave/Libvirt`), and as the process makes its
calls one by one, with its references and its cached connection
(`Slave/Process`). Here the second is shown to do what the first does, on
every host whose libvirt is a hypervisor (`OnHypervisor`): each of its calls
fails and does nothing, or does what the hypervisor does.

The first are given their answers before they start, the second get them call
by call. So the answers are found along a run of the process (`Lib/Foresight`),
and the parts of a handler depend on different ones (`refines_bind`).
`runCommand_refines` puts the handlers together.
-/

namespace Centralisd.Slave.Process

open Runtime

/-! ## libvirt as a host -/

/-- The question of a handler's answers that goes with an operation. -/
def DomainOp.question : DomainOp → Slave.Call
  | .setAutostart _ => .setAutostart
  | .create => .create
  | .shutdown => .shutdown
  | .reboot => .reboot
  | .destroy => .destroy
  | .undefineFlags => .undefineFlags
  | .updateDeviceFlags _ _ => .updateDeviceFlags

/-- The operation on the hypervisor. -/
def DomainOp.apply (a : LibvirtAnswers) (name : String) : DomainOp → Libvirt Unit
  | .setAutostart autostart => Slave.setAutostart a name autostart
  | .create => Slave.create a name
  | .shutdown => Slave.shutdown a name
  | .reboot => Slave.reboot a name
  | .destroy => Slave.destroy a name
  | .undefineFlags => Slave.undefineFlags a name
  | .updateDeviceFlags xml live => Slave.updateDeviceFlags a name xml live

/-- Guests have powered off. -/
def PoweredOff (h h' : Hypervisor) : Prop :=
  ∃ names : List String, Machine.run hostStep h (names.map .powerOff) = some h'

/-- What a call may return, and what it does to the hypervisor. A reference
has the name of its domain or pool, or the path of its volume. While a reply
is written guests may power off; a call that is not listed does nothing. -/
def Allowed (h : Hypervisor) : (c : Call) → interface.Val c → Hypervisor → Prop
  | .lookup .domain _ key, d, h' => h' = h ∧ Ref.id d = key ∧ h.domains key ≠ none
  | .lookup .pool _ key, p, h' => h' = h ∧ Ref.id p = key ∧ key ∈ h.pools
  | .lookup .volume _ key, v, h' => h' = h ∧ Ref.id v = key ∧ key ∈ h.volumes
  | .storageVolCreateXML pool xml, v, h' => ∃ a : LibvirtAnswers,
    PlainPath a.path ∧
      Slave.storageVolCreateXML a pool.id xml h = .ok (Ref.id v) h'
  | .domainDefineXML _ xml, d, h' => ∃ a, Slave.domainDefineXML a xml h = .ok (Ref.id d) h'
  | .domainOp d op, _, h' => ∃ a, op.apply a d.id h = .ok () h'
  | .isActive .domain d, active, h' =>
    h' = h ∧ active = (h.domains d.id).elim false Domain.running
  | .getXMLDesc .domain d, xml, h' =>
    h' = h ∧ (describedDisks xml).2 = (h.domains d.id).elim [] Domain.diskPaths
  | .getPath v, path, h' => h' = h ∧ path = v.id
  | .delete v, _, h' => h' = { h with volumes := h.volumes.erase v.id }
  | .writePacket _, _, h' => PoweredOff h h'
  | _, _, h' => h' = h

variable {σ : Type}

/-- The libvirt of the host is a hypervisor, the one in `view`. -/
structure OnHypervisor (H : Host interface σ) (view : σ → Hypervisor) : Prop where
  failed : ∀ c s err, (H.answer c s).1 = .error err → view (H.answer c s).2 = view s
  done : ∀ c s v, (H.answer c s).1 = .ok v → Allowed (view s) c v (view (H.answer c s).2)

/-- The calls that do nothing to the hypervisor. -/
def Call.quiet : Call → Bool
  | .storageVolCreateXML _ _ | .domainDefineXML _ _ | .domainOp _ _ | .delete _
  | .writePacket _ => false
  | _ => true

section
variable {H : Host interface σ} {view : σ → Hypervisor}

theorem Allowed.eq_of_quiet {h h' : Hypervisor} {c : Call} {v : interface.Val c}
    (hallowed : Allowed h c v h') (hquiet : c.quiet = true) : h' = h := by
  unfold Allowed at hallowed
  split at hallowed
  · exact hallowed.1
  · exact hallowed.1
  · exact hallowed.1
  · cases hquiet
  · cases hquiet
  · cases hquiet
  · exact hallowed.1
  · exact hallowed.1
  · exact hallowed.1
  · cases hquiet
  · cases hquiet
  · exact hallowed

theorem OnHypervisor.quiet (hH : OnHypervisor H view) {c : Call} (hquiet : c.quiet = true)
    (s : σ) : view (H.answer c s).2 = view s := by
  cases hanswer : (H.answer c s).1 with
  | error err => exact hH.failed c s err hanswer
  | ok v => exact (hH.done c s v hanswer).eq_of_quiet hquiet

end

/-! ## Answers chosen ahead -/

/-- The path of a new volume. -/
abbrev NewPath := { path : String // PlainPath path }

/-- What the answers of a handler's run consist of. -/
inductive Choice where
  | fails (c : Slave.Call)
  | path
  | stops
  deriving DecidableEq

abbrev Choice.Val : Choice → Type
  | .fails _ => Option String
  | .path => NewPath
  | .stops => Bool

def answers (a : (k : Choice) → k.Val) : LibvirtAnswers where
  fails c := a (.fails c)
  path := (a .path).1
  stops := a .stops

def rootPath : NewPath := ⟨"/", by decide, by decide⟩

/-- The choices that make up answers. -/
def choices (a : LibvirtAnswers) (path : NewPath) : (k : Choice) → k.Val
  | .fails c => a.fails c
  | .path => path
  | .stops => a.stops

/-- Choices with which calls fail or not. -/
def failing (err : Option String) : (k : Choice) → k.Val :=
  choices { fails := fun _ => err, path := rootPath.1 } rootPath

/-- The questions in a list. -/
def among (ks : List Choice) : Set Choice := { k | k ∈ ks }

theorem fails_of_agree {ks : List Choice} {b a : (k : Choice) → k.Val}
    (h : Agree (among ks) b a) {c : Slave.Call} (hc : Choice.fails c ∈ ks) :
    (answers a).fails c = b (.fails c) :=
  h _ hc

theorem among_append (ks ks' : List Choice) : among ks ∪ among ks' = among (ks ++ ks') := by
  ext k
  exact List.mem_append.symm

section
variable {H : Host interface σ} {view : σ → Hypervisor} {α β α' β' : Type}

/-- A sequence whose parts decide different questions. -/
theorem refines_bind (ks ks' : List Choice) {m : Go σ α} {f : Foretold Choice.Val Hypervisor β}
    {R : α → β → Prop} {n : α → Go σ α'} {g : β → Foretold Choice.Val Hypervisor β'}
    {R' : α' → β' → Prop} (h : Refines view (among ks) m f R)
    (h' : ∀ x y, R x y → Refines view (among ks') (n x) (g y) R')
    (hdisjoint : ∀ k ∈ ks', k ∉ ks) :
    Refines view (among (ks ++ ks')) (m >>= n) (fun a => f a >>= fun y => g y a) R' :=
  among_append ks ks' ▸ h.bind h' hdisjoint

/-- A part that decides one question, which nothing after it decides. -/
theorem refines_step (c : Choice) {D : Set Choice} {m : Go σ α}
    {f : Foretold Choice.Val Hypervisor β} {R : α → β → Prop} {n : α → Go σ α'}
    {g : β → Foretold Choice.Val Hypervisor β'} {R' : α' → β' → Prop}
    (h : Refines view (among [c]) m f R) (h' : ∀ x y, R x y → Refines view D (n x) (g y) R')
    (hnotin : c ∉ D) :
    Refines view (among [c] ∪ D) (m >>= n) (fun a => f a >>= fun y => g y a) R' := by
  refine h.bind h' fun k hk hmem => hnotin ?_
  rw [← List.mem_singleton.mp hmem]
  exact hk

theorem domainCall_congr {a a' : LibvirtAnswers} {c : Slave.Call} {name : String}
    {f : Domain → Except String (Option Domain)} (hfails : a'.fails c = a.fails c) :
    domainCall a' c name f = domainCall a c name f := by
  unfold domainCall attempt
  rw [hfails]

/-- The questions that an operation depends on: whether it fails, and whether
the guest stops. -/
def DomainOp.decides : DomainOp → List Choice
  | .shutdown => [.fails .shutdown, .stops]
  | op => [.fails op.question]

theorem DomainOp.fails_mem_decides (op : DomainOp) : Choice.fails op.question ∈ op.decides := by
  cases op with
  | shutdown => exact List.mem_cons_self
  | _ => exact List.mem_cons_self

theorem DomainOp.apply_error {a : LibvirtAnswers} {op : DomainOp} {err : String}
    (hfails : a.fails op.question = some err) (name : String) (h : Hypervisor) :
    op.apply a name h = .error err h := by
  cases op with
  | _ => exact Effect.bind_error (attempt_error hfails h)

theorem DomainOp.apply_congr {a₀ : LibvirtAnswers} {a : (k : Choice) → k.Val} {op : DomainOp}
    (hagree : Agree (among op.decides) (choices a₀ rootPath) a) (name : String) :
    op.apply (answers a) name = op.apply a₀ name := by
  have hfails := fails_of_agree hagree op.fails_mem_decides
  cases op with
  | shutdown =>
    have hstops : (answers a).stops = a₀.stops := hagree .stops (.tail _ (.head _))
    show domainCall (answers a) .shutdown name _ = domainCall a₀ .shutdown name _
    rw [hstops]
    exact domainCall_congr hfails
  | _ => exact domainCall_congr hfails

variable (hH : OnHypervisor H view)
include hH

/-- A call of the process, for a question that the abstract program asks
first: a call that fails does nothing on either side, and one that is done
is allowed. -/
theorem call_refines {c : Call} {ks : List Choice} {q : Slave.Call}
    {f : Foretold Choice.Val Hypervisor β} {R : interface.Val c → β → Prop}
    (hq : Choice.fails q ∈ ks)
    (hfails : ∀ a err h, (answers a).fails q = some err → f a h = .error err h)
    (hdone : ∀ h v h', Allowed h c v h' → ∃ (b : (k : Choice) → k.Val) (y : β), R v y ∧
      ∀ a, Agree (among ks) b a → f a h = .ok y h') :
    Refines view (among ks) (call H c : Go σ _) f R := by
  refine .call (fun s err herr => ⟨hH.failed c s err herr, failing (some err), err, ?_⟩)
    fun s v hv => hdone (view s) v _ (hH.done c s v hv)
  intro a hagree
  exact hfails a err (view s) (fails_of_agree hagree hq)

/-- A call that does nothing but may fail. -/
theorem attempt_refines {c : Call} {q : Slave.Call} {Q : interface.Val c → Prop}
    (hquiet : c.quiet = true) (hQ : ∀ h v h', Allowed h c v h' → Q v) :
    Refines view (among [.fails q]) (call H c : Go σ _) (fun a => attempt (answers a) q)
      (fun v _ => Q v) := by
  refine call_refines hH List.mem_cons_self (fun a err h hfails => attempt_error hfails h)
    fun h v h' hallowed => ⟨failing none, (), hQ h v h' hallowed, fun a hagree => ?_⟩
  rw [hallowed.eq_of_quiet hquiet]
  exact attempt_ok (fails_of_agree hagree List.mem_cons_self) h

theorem domainOp_refines (d : Ref .domain) (op : DomainOp) :
    Refines view (among op.decides) (call H (.domainOp d op) : Go σ Unit)
      (fun a => op.apply (answers a) d.id) (fun _ _ => True) := by
  refine call_refines hH op.fails_mem_decides (fun a err h hfails =>
    DomainOp.apply_error hfails d.id h) fun h v h' hallowed => ?_
  -- the answers with which the hypervisor allows what the host has done
  obtain ⟨a₀, ha₀⟩ := hallowed
  refine ⟨choices a₀ rootPath, (), trivial, fun a hagree => ?_⟩
  rw [DomainOp.apply_congr hagree d.id]
  exact ha₀

theorem getQEMU_refines :
    Refines view (among [.fails .getQEMU]) (getQEMU H) (fun a => attempt (answers a) .getQEMU)
      (fun p _ => ∃ conn, p = some conn) := by
  refine .read fun w => ?_
  cases w.globals.conn with
  | some conn =>
    -- the process makes no call here, so the abstract one must not fail
    exact .chosen (failing none) () ⟨conn, rfl⟩ fun a t hagree =>
      attempt_ok (fails_of_agree hagree List.mem_cons_self) t
  | none =>
    have hnew : Refines view (among [.fails .getQEMU]) (call H .newConnect : Go σ (Ref .connect))
        (fun a => attempt (answers a) .getQEMU) (fun _ _ => True) :=
      attempt_refines hH rfl fun _ _ _ _ => trivial
    exact hnew.after fun conn _ _ => .assign (.pure ⟨conn, rfl⟩)

/-! ## `vm.go` -/

omit hH in
theorem connected_refines {ks : List Choice} {conn : Ref .connect} {n : Ref .connect → Go σ α}
    {f : Foretold Choice.Val Hypervisor β} {R : α → β → Prop}
    (h : Refines view (among ks) (n conn) f R) :
    Refines view (among ks) (connected (some conn) >>= n) f R :=
  h

theorem lookupDomainByName_refines (conn : Ref .connect) (name : String) :
    Refines view (among [.fails .lookupDomainByName]) (lookupDomainByName H (some conn) name)
      (fun a => Slave.lookupDomainByName (answers a) name)
      (fun p key => ∃ d : Ref .domain, p = some d ∧ d.id = key) := by
  refine connected_refines (.refuseIf fun hname => ?_)
  refine Refines.after (R := fun (d : Ref .domain) key => d.id = key) ?_
    fun d key hd => .pure ⟨d, rfl, hd⟩
  refine call_refines hH List.mem_cons_self (fun a err h hfails =>
    Effect.bind_error (attempt_error hfails h)) fun h d h' hallowed => ?_
  obtain ⟨rfl, hid, hfound⟩ := hallowed
  refine ⟨failing none, trimSpace name, hid, fun a hagree => ?_⟩
  rw [Effect.bind_ok (attempt_ok (fails_of_agree hagree List.mem_cons_self) _),
    Effect.get_bind, Effect.bind_ok (Effect.refuseIf_neg hfound _ _)]
  rfl

/-- The disk paths of `DescribeDomain`. -/
theorem getXMLDesc_refines (d : Ref .domain) :
    Refines view (among [.fails .getXMLDesc]) (valueOr H (.getXMLDesc .domain d) "" : Go σ String)
      (fun a => do
        let h ← get
        pure (if ((answers a).fails .getXMLDesc).isSome then []
          else (h.domains d.id).elim [] Domain.diskPaths))
      (fun xml paths => (describedDisks xml).2 = paths) := by
  refine .valueOr (hH.quiet rfl) fun s => ?_
  cases hanswer : (H.answer (.getXMLDesc .domain d) s).1 with
  | error err =>
    refine ⟨failing (some err), [], rfl, fun a hagree => ?_⟩
    rw [Effect.get_bind, fails_of_agree hagree List.mem_cons_self]
    rfl
  | ok xml =>
    obtain ⟨-, hdisks⟩ := hH.done _ s xml hanswer
    refine ⟨failing none, _, hdisks, fun a hagree => ?_⟩
    rw [Effect.get_bind, fails_of_agree hagree List.mem_cons_self]
    rfl

theorem describeDomain_refines (d : Ref .domain) :
    Refines view (among [.fails .getName, .fails .getXMLDesc]) (describeDomain H (some d))
      (fun a => Slave.describeDomain (answers a) d.id) (fun out paths => out.2 = paths) := by
  unfold describeDomain Slave.describeDomain
  refine .passed (Option.some_ne_none d) (.deref ?_)
  refine refines_bind [.fails .getName] [.fails .getXMLDesc] (attempt_refines hH rfl
    fun _ _ _ _ => trivial) (fun name _ _ => ?_) (by decide)
  refine .look (hH.quiet rfl) fun uuid => .look (hH.quiet rfl) fun id =>
    .look (hH.quiet rfl) fun active => .look (hH.quiet rfl) fun persistent =>
    .look (hH.quiet rfl) fun autostart => .pointer (hH.quiet rfl) fun info => ?_
  refine (getXMLDesc_refines hH d).after fun xml paths hpaths => ?_
  cases info with
  | none => exact .pure hpaths
  | some info => exact .pure hpaths

/-- `IsActive` and what follows. -/
theorem isActive_refines (d : Ref .domain) {D : Set Choice} {n : Bool → Go σ α}
    {g : Bool → Foretold Choice.Val Hypervisor β} {R : α → β → Prop}
    (h : ∀ active, Refines view D (n active) (g active) R) (hnotin : Choice.fails .isActive ∉ D) :
    Refines view (among [.fails .isActive] ∪ D) (valueOr H (.isActive .domain d) false >>= n)
      (fun a => get >>= fun h => g (isActive (answers a) d.id h) a) R := by
  have hactive : Refines view (among [.fails .isActive])
      (valueOr H (.isActive .domain d) false : Go σ Bool)
      (fun a => do
        let h ← get
        pure (isActive (answers a) d.id h)) (fun active active' => active = active') := by
    refine .valueOr (hH.quiet rfl) fun s => ?_
    cases hanswer : (H.answer (.isActive .domain d) s).1 with
    | error err =>
      refine ⟨failing (some err), false, rfl, fun a hagree => ?_⟩
      rw [Effect.get_bind, isActive, fails_of_agree hagree List.mem_cons_self]
      rfl
    | ok active =>
      obtain ⟨-, hrunning⟩ := hH.done _ s active hanswer
      refine ⟨failing none, _, hrunning, fun a hagree => ?_⟩
      rw [Effect.get_bind, isActive, fails_of_agree hagree List.mem_cons_self]
      rfl
  refine (refines_step _ hactive (g := g) ?_ hnotin).of_eq (fun _ => rfl) fun _ _ => rfl
  rintro active _ rfl
  exact h active

theorem lookupStoragePoolByName_refines (conn : Ref .connect) (key : String) :
    Refines view (among [.fails .lookupStoragePoolByName])
      (call H (.lookup .pool conn key) : Go σ (Ref .pool))
      (fun a => lookupStoragePoolByName (answers a) key) (fun pool _ => pool.id = key) := by
  refine call_refines hH List.mem_cons_self (fun a err h hfails =>
    Effect.bind_error (attempt_error hfails h)) fun h pool h' hallowed => ?_
  obtain ⟨rfl, hid, hfound⟩ := hallowed
  refine ⟨failing none, (), hid, fun a hagree => ?_⟩
  have hattempt := attempt_ok (fails_of_agree hagree List.mem_cons_self) h'
  rw [lookupStoragePoolByName, Effect.bind_ok hattempt, Effect.get_bind,
    Effect.refuseIf_neg (not_not.mpr hfound)]

/-- A volume is created at the path that libvirt chooses for it. -/
theorem storageVolCreateXML_refines (pool : Ref .pool) (xml : String) :
    Refines view (among [.fails .storageVolCreateXML, .path])
      (call H (.storageVolCreateXML pool xml) : Go σ (Ref .volume))
      (fun a => Slave.storageVolCreateXML (answers a) pool.id xml)
      (fun vol path => vol.id = path) := by
  refine call_refines hH List.mem_cons_self (fun a err h hfails =>
    Effect.bind_error (attempt_error hfails h)) fun h vol h' hallowed => ?_
  obtain ⟨a₀, hplain, hcreate⟩ := hallowed
  refine ⟨choices a₀ ⟨a₀.path, hplain⟩, _, rfl, fun a hagree => ?_⟩
  have hfails := fails_of_agree hagree List.mem_cons_self
  have hpath : (answers a).path = a₀.path :=
    congrArg Subtype.val (hagree .path (.tail _ (.head _)))
  rw [← hcreate]
  unfold Slave.storageVolCreateXML attempt
  rw [hfails, hpath]
  rfl

theorem createDiskVolume_refines (conn : Ref .connect) (poolName diskName : String)
    (diskSizeGB : UInt64) :
    Refines view (among [.fails .lookupStoragePoolByName, .fails .storageVolCreateXML, .path,
        .fails .getPath])
      (createDiskVolume H (some conn) poolName diskName diskSizeGB)
      (fun a => Slave.createDiskVolume (answers a) poolName diskName diskSizeGB)
      (fun out path => (∃ vol, out.1 = some vol) ∧ out.2 = path) := by
  unfold createDiskVolume Slave.createDiskVolume
  refine connected_refines (.refuseIf fun _ => ?_)
  refine refines_bind [.fails .lookupStoragePoolByName]
    [.fails .storageVolCreateXML, .path, .fails .getPath]
    (lookupStoragePoolByName_refines hH conn _) (fun pool _ hpool => ?_) (by decide)
  rw [← hpool]
  refine .deferCall (hH.quiet rfl) ?_
  refine refines_bind [.fails .storageVolCreateXML, .path] [.fails .getPath]
    (storageVolCreateXML_refines hH pool _) (fun vol path hvol => ?_) (by decide)
  have hgetPath : Refines view (among [.fails .getPath])
      (onError H (.free .volume vol) (call H (.getPath vol)) : Go σ String)
      (fun a => attempt (answers a) .getPath) (fun path' _ => path' = path) :=
    .onError (hH.quiet rfl) (attempt_refines hH rfl fun _ _ _ h => h.2.trans hvol)
  refine refines_bind [.fails .getPath] [] hgetPath (fun path' _ hpath => ?_) (by decide)
  exact .pure ⟨⟨vol, rfl⟩, hpath⟩

theorem domainDefineXML_refines (conn : Ref .connect) (xml : String) :
    Refines view (among [.fails .domainDefineXML])
      (call H (.domainDefineXML conn xml) : Go σ (Ref .domain))
      (fun a => Slave.domainDefineXML (answers a) xml) (fun d name => d.id = name) := by
  refine call_refines hH List.mem_cons_self (fun a err h hfails =>
    Effect.bind_error (attempt_error hfails h)) fun h d h' hallowed => ?_
  obtain ⟨a₀, hdefine⟩ := hallowed
  refine ⟨choices a₀ rootPath, _, rfl, fun a hagree => ?_⟩
  have hfails := fails_of_agree hagree List.mem_cons_self
  rw [← hdefine]
  unfold Slave.domainDefineXML attempt
  rw [hfails]
  rfl

/-! ## Handlers -/

omit hH in
theorem unmarshalParams_none {T : Type} {D : Set Choice} {unmarshal : Json → Option T}
    {invalid : String} {cmd : NodeCommand} {n : T → Go σ α} {R : α → β → Prop}
    (hparams : Slave.unmarshalParams unmarshal cmd = none) :
    Refines view D (unmarshalParams unmarshal invalid cmd >>= n)
      (fun _ : (k : Choice) → k.Val => (throw invalid : Libvirt β)) R := by
  unfold Slave.unmarshalParams at hparams
  unfold unmarshalParams
  rw [hparams]
  exact .fail

omit hH in
theorem unmarshalParams_some {T : Type} {D : Set Choice} {unmarshal : Json → Option T}
    {invalid : String} {cmd : NodeCommand} {n : T → Go σ α} {params : T}
    {f : Foretold Choice.Val Hypervisor β} {R : α → β → Prop}
    (hparams : Slave.unmarshalParams unmarshal cmd = some params)
    (h : Refines view D (n params) f R) :
    Refines view D (unmarshalParams unmarshal invalid cmd >>= n) f R := by
  unfold Slave.unmarshalParams at hparams
  unfold unmarshalParams
  rw [hparams]
  exact h

theorem withDomain_refines {D : Set Choice} {name : String}
    {body : Option (Ref .connect) → Ref .domain → Go σ α}
    {g : String → Foretold Choice.Val Hypervisor β} {R : α → β → Prop}
    (h : ∀ conn d, Refines view D (body (some conn) d) (g d.id) R)
    (hconn : Choice.fails .getQEMU ∉ D) (hlookup : Choice.fails .lookupDomainByName ∉ D) :
    Refines view Set.univ (withDomain H name body)
      (fun a => do
        attempt (answers a) .getQEMU
        let domain ← Slave.lookupDomainByName (answers a) name
        g domain a) R := by
  refine Refines.mono (refines_step (D := among [.fails .lookupDomainByName] ∪ D) _
    (getQEMU_refines hH) ?_ ?_) (Set.subset_univ _)
  · rintro _ _ ⟨conn, rfl⟩
    refine refines_step _ (lookupDomainByName_refines hH conn name) ?_ hlookup
    rintro _ _ ⟨d, rfl, rfl⟩
    exact .deref (.deferCall (hH.quiet rfl) (h conn d))
  · rintro (hk | hk)
    · cases List.mem_singleton.mp hk
    · exact hconn hk

/-- An operation whose result is not read. -/
theorem operate_refines (d : Ref .domain) (op : DomainOp) (result : Json) :
    Refines view (among op.decides)
      (do
        call H (.domainOp d op)
        pure result : Go σ Json)
      (fun a => do
        op.apply (answers a) d.id
        pure result) (fun _ _ => True) :=
  (domainOp_refines hH d op).last fun _ _ _ => .pure trivial

/-- A handler may decide everything. -/
abbrev Simulates (view : σ → Hypervisor) (m : Go σ Json) (f : LibvirtAnswers → Libvirt Json) :
    Prop :=
  Refines view Set.univ m (fun a => f (answers a)) (fun _ _ => True)

omit hH in
theorem DomainOp.not_mem_decides {c : Slave.Call} {op : DomainOp} (hne : c ≠ op.question) :
    Choice.fails c ∉ among op.decides := by
  intro hmem
  cases op with
  | shutdown =>
    rcases List.mem_cons.mp hmem with hc | hc
    · exact hne (Choice.fails.inj hc)
    · cases List.mem_singleton.mp hc
  | _ => exact hne (Choice.fails.inj (List.mem_singleton.mp hmem))

theorem handleDomainAction_refines (cmd : NodeCommand) (op : DomainOp) :
    Simulates view (handleDomainAction H cmd op)
      (fun a => Slave.handleDomainAction a cmd (op.apply a)) := by
  unfold Simulates handleDomainAction Slave.handleDomainAction
  cases hparams : Slave.unmarshalParams LibvirtVMActionParams.unmarshal cmd with
  | none => exact unmarshalParams_none hparams
  | some params =>
    exact unmarshalParams_some hparams (withDomain_refines hH
      (fun _ d => operate_refines hH d op statusOK)
      (op.not_mem_decides (by cases op <;> simp [DomainOp.question]))
      (op.not_mem_decides (by cases op <;> simp [DomainOp.question])))

theorem handleLibvirtVMSetAutostart_refines (cmd : NodeCommand) :
    Simulates view (handleLibvirtVMSetAutostart H cmd)
      (fun a => Slave.handleLibvirtVMSetAutostart a cmd) := by
  unfold Simulates handleLibvirtVMSetAutostart Slave.handleLibvirtVMSetAutostart
  cases hparams : Slave.unmarshalParams LibvirtVMSetAutostartParams.unmarshal cmd with
  | none => exact unmarshalParams_none hparams
  | some params =>
    exact unmarshalParams_some hparams (withDomain_refines hH
      (fun _ d => operate_refines hH d (.setAutostart params.enabled) _)
      (DomainOp.not_mem_decides (by simp [DomainOp.question]))
      (DomainOp.not_mem_decides (by simp [DomainOp.question])))

/-- The device is updated with the flags for the domain as it is. -/
theorem updateCDROM_refines (d : Ref .domain) (xml : String) (result : Json) :
    Refines view (among [.fails .isActive] ∪ among [.fails .updateDeviceFlags])
      (do
        let active ← valueOr H (.isActive .domain d) false
        call H (.domainOp d (.updateDeviceFlags xml active))
        pure result : Go σ Json)
      (fun a => do
        let h ← get
        Slave.updateDeviceFlags (answers a) d.id xml (isActive (answers a) d.id h)
        pure result) (fun _ _ => True) := by
  have hnotin : Choice.fails .isActive ∉ among [.fails .updateDeviceFlags] := by simp [among]
  exact isActive_refines hH d (g := fun active a =>
      Slave.updateDeviceFlags (answers a) d.id xml active >>= fun _ => pure result)
    (fun active => operate_refines hH d (.updateDeviceFlags xml active) result) hnotin

theorem handleLibvirtVMAttachISO_refines (cmd : NodeCommand) :
    Simulates view (handleLibvirtVMAttachISO H cmd)
      (fun a => Slave.handleLibvirtVMAttachISO a cmd) := by
  unfold Simulates handleLibvirtVMAttachISO Slave.handleLibvirtVMAttachISO
  cases hparams : Slave.unmarshalParams LibvirtVMAttachISOParams.unmarshal cmd with
  | none => exact unmarshalParams_none hparams
  | some params =>
    refine unmarshalParams_some hparams (.refuseIf fun _ => ?_)
    exact withDomain_refines hH (fun _ d => updateCDROM_refines hH d _ _)
      (by simp [among]) (by simp [among])

theorem handleLibvirtVMDetachISO_refines (cmd : NodeCommand) :
    Simulates view (handleLibvirtVMDetachISO H cmd)
      (fun a => Slave.handleLibvirtVMDetachISO a cmd) := by
  unfold Simulates handleLibvirtVMDetachISO Slave.handleLibvirtVMDetachISO
  cases hparams : Slave.unmarshalParams LibvirtVMActionParams.unmarshal cmd with
  | none => exact unmarshalParams_none hparams
  | some params =>
    refine unmarshalParams_some hparams ?_
    exact withDomain_refines hH (fun _ d => updateCDROM_refines hH d _ _)
      (by simp [among]) (by simp [among])

omit hH in
theorem deferFree_refines (hH : OnHypervisor H view) {D : Set Choice} {vol : Option (Ref .volume)}
    {m : Go σ α} {f : Foretold Choice.Val Hypervisor β} {R : α → β → Prop}
    (h : Refines view D m f R) : Refines view D (deferFree H vol m) f R := by
  cases vol with
  | none => exact h
  | some vol => exact .deferCall (hH.quiet rfl) h

/-- What follows the definition of a new domain. -/
theorem finishCreate_refines (d : Ref .domain) (params : LibvirtVMCreateParams)
    (vol : Option (Ref .volume)) (diskPath : String) :
    Refines view (among [.fails .setAutostart, .fails .create, .fails .volGetName])
      (do
        doIf params.autostart (call H (.domainOp d (.setAutostart true)))
        doIf params.start (call H (.domainOp d .create))
        let uuid ← valueOr H (.getUUIDString .domain d) ""
        match vol with
        | none => pure (createResult params.name uuid "" diskPath)
        | some vol => do
          let volumeName ← valueOr H (.getName .volume vol) ""
          pure (createResult params.name uuid volumeName diskPath) : Go σ Json)
      (fun a => do
        Effect.doIf params.autostart (Slave.setAutostart (answers a) d.id true)
        Effect.doIf params.start (Slave.create (answers a) d.id)
        pure (Slave.createResult (answers a) params diskPath)) (fun _ _ => True) := by
  refine refines_bind [.fails .setAutostart] [.fails .create, .fails .volGetName]
    (.doIf trivial fun _ => domainOp_refines hH d (.setAutostart true)) (fun _ _ _ => ?_) (by decide)
  refine refines_bind [.fails .create] [.fails .volGetName]
    (.doIf trivial fun _ => domainOp_refines hH d .create) (fun _ _ _ => ?_) (by decide)
  have hresult : ∀ result : Json, Refines view (among [.fails .volGetName])
      (pure result : Go σ Json) (fun a => pure (Slave.createResult (answers a) params diskPath))
      (fun _ _ => True) := by
    refine fun result => .chosen (failing none) (Slave.createResult (answers (failing none)) params
      diskPath) trivial fun a t hagree => ?_
    have hfails : (answers a).fails .volGetName = (answers (failing none)).fails .volGetName :=
      fails_of_agree hagree List.mem_cons_self
    unfold Slave.createResult
    rw [hfails]
    rfl
  refine .look (hH.quiet rfl) fun uuid => ?_
  cases vol with
  | none => exact hresult _
  | some vol => exact .look (hH.quiet rfl) fun _ => hresult _

theorem handleLibvirtVMCreate_refines (cmd : NodeCommand) :
    Simulates view (handleLibvirtVMCreate H cmd) (fun a => Slave.handleLibvirtVMCreate a cmd) := by
  unfold Simulates handleLibvirtVMCreate Slave.handleLibvirtVMCreate
  cases hparams : Slave.unmarshalParams LibvirtVMCreateParams.unmarshal cmd with
  | none => exact unmarshalParams_none hparams
  | some params =>
    refine unmarshalParams_some hparams (.refuseIf fun _ => .mono ?_ (Set.subset_univ (among
      [.fails .getQEMU, .fails .lookupStoragePoolByName, .fails .storageVolCreateXML, .path,
        .fails .getPath, .fails .domainDefineXML, .fails .setAutostart, .fails .create,
      .fails .volGetName])))
    refine refines_bind [.fails .getQEMU] [.fails .lookupStoragePoolByName,
      .fails .storageVolCreateXML, .path, .fails .getPath, .fails .domainDefineXML,
      .fails .setAutostart, .fails .create,
      .fails .volGetName] (getQEMU_refines hH) ?_ (by decide)
    rintro _ _ ⟨conn, rfl⟩
    refine refines_bind [.fails .lookupStoragePoolByName, .fails .storageVolCreateXML, .path,
      .fails .getPath] [.fails .domainDefineXML, .fails .setAutostart, .fails .create,
      .fails .volGetName]
      (createDiskVolume_refines hH conn _ _ _) ?_ (by decide)
    rintro ⟨vol, _⟩ diskPath ⟨-, rfl⟩
    -- from here on the volume is freed, whatever follows
    refine deferFree_refines hH (.deref ?_)
    refine refines_bind [.fails .domainDefineXML] [.fails .setAutostart, .fails .create,
      .fails .volGetName]
      (domainDefineXML_refines hH conn _) ?_ (by decide)
    rintro d _ rfl
    exact .deferCall (hH.quiet rfl) (finishCreate_refines hH d _ vol _)

/-! ### Deleting volumes -/

/-- The questions that `DeleteDomainVolumes` depends on from its `i`-th path
on. -/
def volumesFrom (i : Nat) : Set Choice :=
  { k | ∃ j, i ≤ j ∧ (k = .fails (.lookupStorageVolByPath j) ∨ k = .fails (.delete j)) }

/-- The volume at a path is found. -/
def volumeFound (a : LibvirtAnswers) (i : Nat) (path : String) : Libvirt Bool := do
  let h ← get
  pure (decide (¬ (trimSpace path = "" ∨ (a.fails (.lookupStorageVolByPath i)).isSome ∨
    trimSpace path ∉ h.volumes)))

/-- A volume that was found is deleted. -/
def deleteFound (a : LibvirtAnswers) (i : Nat) (path : String) : Libvirt Unit := do
  attempt a (.delete i)
  let h ← get
  set { h with volumes := h.volumes.erase (trimSpace path) }

omit hH in
/-- An iteration, and the loop from the next path on. -/
theorem deleteDomainVolumes_eq (a : LibvirtAnswers) (i : Nat) (path : String)
    (paths : List String) (h : Hypervisor) :
    Slave.deleteDomainVolumes a i (path :: paths) h =
      ((volumeFound a i path >>= fun found => Effect.doIf found (deleteFound a i path)) >>=
        fun _ => Slave.deleteDomainVolumes a (i + 1) paths) h := by
  have hfound : volumeFound a i path h = .ok (decide (¬ (trimSpace path = "" ∨
      (a.fails (.lookupStorageVolByPath i)).isSome ∨ trimSpace path ∉ h.volumes))) h := rfl
  rw [Slave.deleteDomainVolumes, Effect.get_bind, bind_assoc, Effect.bind_ok hfound]
  by_cases hskip : trimSpace path = "" ∨ (a.fails (.lookupStorageVolByPath i)).isSome ∨
      trimSpace path ∉ h.volumes
  · rw [if_pos hskip, decide_eq_false (not_not.mpr hskip),
      Effect.bind_ok (Effect.doIf_false _ h)]
  · rw [if_neg hskip, decide_eq_true hskip, Effect.doIf_true, deleteFound]
    cases hdelete : a.fails (.delete i) with
    | some err =>
      rw [Effect.bind_error (attempt_error hdelete h),
        Effect.bind_error (Effect.bind_error (attempt_error hdelete h))]
    | none =>
      have hset : (attempt a (.delete i) >>= fun _ => get >>= fun h' : Hypervisor =>
          (set { h' with volumes := h'.volumes.erase (trimSpace path) } : Libvirt PUnit)) h =
          .ok () { h with volumes := h.volumes.erase (trimSpace path) } :=
        Effect.bind_ok (attempt_ok hdelete h)
      rw [Effect.bind_ok (attempt_ok hdelete h), Effect.bind_ok hset]
      rfl

theorem deleteFound_refines (vol : Ref .volume) (i : Nat) {path : String}
    (hvol : vol.id = trimSpace path) :
    Refines view (among [.fails (.delete i)]) (call H (.delete vol) : Go σ Unit)
      (fun a => deleteFound (answers a) i path) (fun _ _ => True) := by
  refine call_refines hH List.mem_cons_self (fun a err h hfails =>
    Effect.bind_error (attempt_error hfails h)) fun h v h' hallowed =>
      ⟨failing none, (), trivial, fun a hagree => ?_⟩
  obtain rfl : h' = { h with volumes := h.volumes.erase vol.id } := hallowed
  rw [hvol]
  exact Effect.bind_ok (attempt_ok (fails_of_agree hagree List.mem_cons_self) h)

theorem deleteVolume_refines (conn : Ref .connect) (i : Nat) (path : String) :
    Refines view (among [.fails (.lookupStorageVolByPath i)] ∪ among [.fails (.delete i)])
      (deleteVolume H conn path)
      (fun a => volumeFound (answers a) i path >>= fun found =>
        Effect.doIf found (deleteFound (answers a) i path)) (fun _ _ => True) := by
  unfold deleteVolume
  by_cases hpath : trimSpace path = ""
  · -- no call is made, and the abstract program finds nothing
    rw [if_pos hpath]
    have hpure : Refines view (among [.fails (.lookupStorageVolByPath i)] ∪
        among [.fails (.delete i)]) (pure () : Go σ Unit)
        (fun _ : (k : Choice) → k.Val => (pure () : Libvirt Unit)) (fun _ _ => True) := .pure trivial
    refine hpure.of_eq (fun _ => rfl) fun a h => ?_
    have hfound : volumeFound (answers a) i path h = .ok false h := by
      rw [volumeFound, Effect.get_bind, decide_eq_false (not_not.mpr (.inl hpath))]
      rfl
    rw [Effect.bind_ok hfound]
    rfl
  · rw [if_neg hpath]
    have hlookup : Refines view (among [.fails (.lookupStorageVolByPath i)])
        (ask H (.lookup .volume conn (trimSpace path)) true : Go σ _)
        (fun a => volumeFound (answers a) i path)
        (fun answer found => (∀ err, answer = .error err → found = false) ∧
          ∀ vol, answer = .ok vol → found = true ∧ Ref.id vol = trimSpace path) := by
      refine .answer (hH.quiet rfl) fun s => ?_
      cases hanswer : (H.answer (.lookup .volume conn (trimSpace path)) s).1 with
      | error err =>
        refine ⟨failing (some err), false, ⟨fun _ _ => rfl, ?_⟩, fun a hagree => ?_⟩
        · rintro vol ⟨⟩
        · rw [volumeFound, Effect.get_bind, fails_of_agree hagree List.mem_cons_self,
            decide_eq_false (not_not.mpr (.inr (.inl rfl)))]
          rfl
      | ok vol =>
        obtain ⟨-, hid, hmem⟩ := hH.done _ s vol hanswer
        refine ⟨failing none, true, ⟨?_, ?_⟩, fun a hagree => ?_⟩
        · rintro err ⟨⟩
        · rintro _ ⟨rfl⟩
          exact ⟨rfl, hid⟩
        · have hfails : (answers a).fails (.lookupStorageVolByPath i) = none :=
            fails_of_agree hagree List.mem_cons_self
          rw [volumeFound, Effect.get_bind, hfails, decide_eq_true]
          · rfl
          · rintro (h | h | h)
            · exact hpath h
            · cases h
            · exact h hmem
    refine refines_step _ hlookup (fun answer found hfound => ?_) ?_
    · cases answer with
      | error err =>
        obtain rfl := hfound.1 err rfl
        exact .pure trivial
      | ok vol =>
        obtain ⟨rfl, hid⟩ := hfound.2 vol rfl
        exact .deferCall (hH.quiet rfl) (deleteFound_refines hH vol i hid)
    · simp [among]

theorem deleteDomainVolumes_refines (conn : Ref .connect) (paths : List String) (i : Nat) :
    Refines view (volumesFrom i) (List.mapM (deleteVolume H conn) paths)
      (fun a => Slave.deleteDomainVolumes (answers a) i paths) (fun _ _ => True) := by
  induction paths generalizing i with
  | nil =>
    rw [List.mapM_nil]
    exact .pure trivial
  | cons path paths ih =>
    rw [List.mapM_cons]
    -- the later iterations decide questions with larger numbers
    have hrest : ∀ x : Unit, Refines view (volumesFrom (i + 1))
        (do
          let xs ← List.mapM (deleteVolume H conn) paths
          pure (x :: xs) : Go σ (List Unit))
        (fun a => Slave.deleteDomainVolumes (answers a) (i + 1) paths) (fun _ _ => True) :=
      fun x => (ih (i + 1)).after fun _ _ _ => .pure trivial
    have hloop := (deleteVolume_refines hH conn i path).bind (fun x _ _ => hrest x) ?_
    · refine (hloop.of_eq (fun _ => rfl) fun a h =>
        deleteDomainVolumes_eq (answers a) i path paths h).mono ?_
      rintro k ((hk | hk) | ⟨j, hj, hk⟩)
      · exact ⟨i, le_rfl, .inl (List.mem_singleton.mp hk)⟩
      · exact ⟨i, le_rfl, .inr (List.mem_singleton.mp hk)⟩
      · exact ⟨j, Nat.le_of_succ_le hj, hk⟩
    · rintro k ⟨j, hj, rfl | rfl⟩ (hk | hk)
      · cases List.mem_singleton.mp hk
        exact absurd hj (Nat.not_succ_le_self i)
      · cases List.mem_singleton.mp hk
      · cases List.mem_singleton.mp hk
      · cases List.mem_singleton.mp hk
        exact absurd hj (Nat.not_succ_le_self i)

/-- A delete after the domain was described and seen active or not. -/
theorem finishDelete_refines (conn : Ref .connect) (d : Ref .domain)
    (params : LibvirtVMDeleteParams) (diskPaths : List String) (result : Json) (active : Bool) :
    Refines view (among [.fails .destroy] ∪ (among [.fails .undefineFlags] ∪ volumesFrom 0))
      (do
        doIf active do
          refuseIf (params.forceStop = false) "domain is running; force stop first"
          call H (.domainOp d .destroy)
        call H (.domainOp d .undefineFlags)
        doIf params.removeVolumes (deleteDomainVolumes H (some conn) diskPaths)
        pure result : Go σ Json)
      (fun a => do
        Effect.doIf active do
          Effect.refuseIf (params.forceStop = false) "domain is running; force stop first"
          Slave.destroy (answers a) d.id
        Slave.undefineFlags (answers a) d.id
        Effect.doIf params.removeVolumes (Slave.deleteDomainVolumes (answers a) 0 diskPaths)
        pure result) (fun _ _ => True) := by
  have hloop : Refines view (volumesFrom 0) (deleteDomainVolumes H (some conn) diskPaths)
      (fun a => Slave.deleteDomainVolumes (answers a) 0 diskPaths) (fun _ _ => True) :=
    (deleteDomainVolumes_refines hH conn diskPaths 0).after fun _ _ _ => .pure trivial
  refine refines_step _ (.doIf trivial fun _ => .refuseIf fun _ =>
    domainOp_refines hH d .destroy) (fun _ _ _ => ?_) (by simp [among, volumesFrom])
  refine refines_step _ (domainOp_refines hH d .undefineFlags) (fun _ _ _ => ?_)
    (by simp [volumesFrom])
  exact (Refines.doIf trivial fun _ => hloop).last fun _ _ _ => .pure trivial

theorem handleLibvirtVMDelete_refines (cmd : NodeCommand) :
    Simulates view (handleLibvirtVMDelete H cmd) (fun a => Slave.handleLibvirtVMDelete a cmd) := by
  unfold Simulates handleLibvirtVMDelete Slave.handleLibvirtVMDelete
  cases hparams : Slave.unmarshalParams LibvirtVMDeleteParams.unmarshal cmd with
  | none => exact unmarshalParams_none hparams
  | some params =>
    refine unmarshalParams_some hparams (withDomain_refines (D := among [.fails .getName,
      .fails .getXMLDesc] ∪ (among [.fails .isActive] ∪ (among [.fails .destroy] ∪
        (among [.fails .undefineFlags] ∪ volumesFrom 0)))) hH (fun conn d => ?_) ?_ ?_)
    · refine (describeDomain_refines hH d).bind ?_ ?_
      · rintro ⟨_, diskPaths⟩ _ rfl
        have hfinish := isActive_refines hH d (fun active =>
          finishDelete_refines hH conn d params diskPaths
            (.obj [("removed_volumes", .bool params.removeVolumes)]) active)
          (by simp [among, volumesFrom])
        exact hfinish
      · intro k hk hmem
        rcases List.mem_cons.mp hmem with rfl | hmem
        · simp [among, volumesFrom] at hk
        · obtain rfl := List.mem_singleton.mp hmem
          simp [among, volumesFrom] at hk
    · simp [among, volumesFrom]
    · simp [among, volumesFrom]

/-! ### Every handler -/

omit hH in
theorem Simulates.map {m : Go σ Json} {f : LibvirtAnswers → Libvirt Json}
    (h : Simulates view m f) :
    Refines view Set.univ (some <$> m : Go σ RawMessage) (fun a => f (answers a))
      (fun _ _ => True) := by
  rw [map_eq_pure_bind]
  exact h.after fun _ _ _ => .pure trivial

/-- The process does for a command what the hypervisor's handler does. -/
theorem runCommand_refines (moby : Moby) {action : String} {cmd : NodeCommand}
    {handler : LibvirtAnswers → NodeCommand → Libvirt Json}
    (hhandler : libvirtHandler action = some handler) :
    Refines view Set.univ (runCommand H moby action cmd) (fun a => handler (answers a) cmd)
      (fun _ _ => True) := by
  unfold libvirtHandler at hhandler
  split at hhandler
  · cases hhandler
    exact (handleLibvirtVMCreate_refines hH cmd).map
  · cases hhandler
    exact (handleDomainAction_refines hH cmd .create).map
  · cases hhandler
    exact (handleDomainAction_refines hH cmd .shutdown).map
  · cases hhandler
    exact (handleDomainAction_refines hH cmd .reboot).map
  · cases hhandler
    exact (handleDomainAction_refines hH cmd .destroy).map
  · cases hhandler
    exact (handleLibvirtVMDelete_refines hH cmd).map
  · cases hhandler
    exact (handleLibvirtVMSetAutostart_refines hH cmd).map
  · cases hhandler
    exact (handleLibvirtVMAttachISO_refines hH cmd).map
  · cases hhandler
    exact (handleLibvirtVMDetachISO_refines hH cmd).map
  · cases hhandler

end

end Centralisd.Slave.Process
