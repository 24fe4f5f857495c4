import Centralisd.Lib.Handles
import Centralisd.Slave.Survival

/-!
# Centralisd — the references that the slave holds

Objects of libvirt and docker are references that the slave has to free:
what a lookup, a listing, a definition or a pull hands over. `handles` says
for every call which references it is made on and which it hands over or
takes back.

`references_audited` is about whole runs of `Connect`. No call is made on a
reference that is not held, so none is used after it was freed and none is
freed twice, whatever the host answers and in whatever way a command ends.
And an iteration of the loop frees what it gets: it leaves the domains,
networks, pools, volumes and pulls held as they were. The one exception is a
listing of domains or of pools that fails. It returns at the first object
that cannot be described, and those after it are never freed.
-/

namespace Centralisd.Slave.Process

open Runtime

variable {σ : Type} {H : Host interface σ}

/-- A reference of any kind. -/
structure Handle where
  kind : Kind
  id : String
  deriving DecidableEq, Repr

def Ref.handle {k : Kind} (r : Ref k) : Handle := ⟨k, r.id⟩

/-- The reference that a call is made on. -/
def Call.target : Call → Option Handle
  | .flush nft _ => some nft.handle
  | .listNetworks qemu | .listAll _ qemu | .lookup _ qemu _ | .domainDefineXML qemu _ =>
    some qemu.handle
  | .storageVolCreateXML pool _ | .listAllStorageVolumes pool => some pool.handle
  | .getName _ r | .getUUIDString _ r | .isActive _ r | .isPersistent _ r | .getAutostart _ r
  | .getXMLDesc _ r | .getStorageInfo _ r | .free _ r => some r.handle
  | .getID d | .getDomainInfo d | .domainOp d _ => some d.handle
  | .getKey v | .getPath v | .delete v => some v.handle
  | .containerList cli | .imageList cli | .imagePull cli _ | .imageRemove cli _ _ _
  | .containerCreate cli _ | .containerStart cli _ | .containerStop cli _ _
  | .containerRestart cli _ _ | .containerRemove cli _ _ _ => some cli.handle
  | .wait resp => some resp.handle
  | .nftablesNew | .newConnect | .newClient | .virtualMemory | .percent | .counts
  | .writePacket _ => none

/-- The references that a value hands over. -/
def Call.acquired : (c : Call) → Val c → Multiset Handle
  | .nftablesNew, nft => {nft.handle}
  | .newConnect, qemu => {qemu.handle}
  | .newClient, cli => {cli.handle}
  | .lookup _ _ _, r => {r.handle}
  | .domainDefineXML _ _, d => {d.handle}
  | .storageVolCreateXML _ _, vol => {vol.handle}
  | .imagePull _ _, resp => {resp.handle}
  | .listAll k _, rs => ((rs : List (Ref k)).map Ref.handle : List Handle)
  | .listAllStorageVolumes _, vols => ((vols : List (Ref .volume)).map Ref.handle : List Handle)
  | _, _ => 0

def Call.released : Call → Multiset Handle
  | .free _ r => {r.handle}
  | _ => 0

def handles : Handles interface Handle where
  used c := c.target.elim 0 fun r => {r}
  released := Call.released
  acquired := Call.acquired

/-- Calls that hand over nothing and take nothing back. -/
def Call.plain : Call → Bool
  | .nftablesNew | .newConnect | .newClient | .lookup _ _ _ | .domainDefineXML _ _
  | .storageVolCreateXML _ _ | .imagePull _ _ | .listAll _ _ | .listAllStorageVolumes _
  | .free _ _ => false
  | _ => true

section
variable {there base own : Multiset Handle}

theorem used_of_target {c : Call} {r : Handle} (htarget : c.target = some r) (hr : r ∈ there) :
    ∀ r' ∈ handles.used c, r' ∈ there := by
  intro r' hr'
  rw [handles] at hr'
  simp only [htarget, Option.elim_some, Multiset.mem_singleton] at hr'
  rw [hr']
  exact hr

theorem plain_on {c : Call} {r : Handle} (htarget : c.target = some r) (hplain : c.plain = true)
    (hr : r ∈ there) : handles.Plain there c where
  used := used_of_target htarget hr
  released := by cases c <;> first | rfl | cases hplain
  acquired v := by cases c <;> first | rfl | cases hplain

theorem returns_free (k : Kind) (r : Ref k) : handles.Returns (.free k r) r.handle where
  used _ hr' := Multiset.mem_singleton.mp hr'
  released := rfl
  acquired _ := rfl

theorem mem_base {r : Handle} (h : r ∈ base) : r ∈ base + own := Multiset.mem_add.mpr (.inl h)

theorem mem_own {r : Handle} (h : r ∈ own) : r ∈ base + own := Multiset.mem_add.mpr (.inr h)

end

/-! ## `vm.go` -/

section
variable {base own : Multiset Handle}

theorem describeDomain_steady {d : Ref .domain} (hd : d.handle ∈ base + own) :
    Steady handles base own (describeDomain H (some d)) := by
  unfold describeDomain
  refine .refuseIf rfl fun _ => .deref ?_
  refine Steady.callThen (plain_on rfl rfl hd) rfl fun name => ?_
  refine .valueOr (plain_on rfl rfl hd) fun uuid => ?_
  refine .valueOr (plain_on rfl rfl hd) fun id => ?_
  refine .valueOr (plain_on rfl rfl hd) fun active => ?_
  refine .valueOr (plain_on rfl rfl hd) fun persistent => ?_
  refine .valueOr (plain_on rfl rfl hd) fun autostart => ?_
  refine .pointer (plain_on rfl rfl hd) fun info => ?_
  refine .valueOr (plain_on rfl rfl hd) fun xmlDesc => ?_
  cases info with
  | none => exact .pure rfl
  | some info => exact .pure rfl

theorem describeStorageVolume_steady {vol : Ref .volume} (hvol : vol.handle ∈ base + own) :
    Steady handles base own (describeStorageVolume H (some vol)) := by
  unfold describeStorageVolume
  refine .refuseIf rfl fun _ => .deref ?_
  refine Steady.callThen (plain_on rfl rfl hvol) rfl fun name => ?_
  refine .valueOr (plain_on rfl rfl hvol) fun key => ?_
  refine .valueOr (plain_on rfl rfl hvol) fun path => ?_
  refine .pointer (plain_on rfl rfl hvol) fun info => ?_
  refine .valueOr (plain_on rfl rfl hvol) fun xmlDesc => ?_
  cases info with
  | none => exact .pure rfl
  | some info => exact .pure rfl

/-- When a volume cannot be described, those after it are lost. -/
theorem describeStoragePool_tracks {pool : Ref .pool} (hpool : pool.handle ∈ base + own) :
    Tracks handles base own (describeStoragePool H (some pool)) (fun _ l => l = own)
      (fun l => own ≤ l) := by
  unfold describeStoragePool
  refine .refuseIf le_rfl fun _ => .deref ?_
  refine Steady.callThen (plain_on rfl rfl hpool) le_rfl fun name => ?_
  refine .valueOr (plain_on rfl rfl hpool) fun uuid => ?_
  refine .valueOr (plain_on rfl rfl hpool) fun active => ?_
  refine .valueOr (plain_on rfl rfl hpool) fun persistent => ?_
  refine .valueOr (plain_on rfl rfl hpool) fun autostart => ?_
  refine .pointer (plain_on rfl rfl hpool) fun info => ?_
  refine .callThen (used_of_target rfl hpool) rfl le_rfl fun vols => ?_
  refine .bind (.mapM_deferCall (returns_free .volume) (fun vol => ?_) vols) ?_
  · refine (describeStorageVolume_steady (mem_own (Multiset.mem_singleton_self _))).weaken
      (fun _ _ => id) ?_
    rintro _ rfl
    exact le_rfl
  · rintro volumes _ rfl
    cases info with
    | none => exact .pure rfl
    | some info => exact .pure rfl

/-- Networks are freed whatever is known about them. -/
theorem describeNetwork_tracks (net : Ref .network) :
    Tracks handles base {net.handle} (describeNetwork H net) (fun _ l => l = 0)
      (fun _ => False) := by
  have hnet : net.handle ∈ base + {net.handle} := mem_own (Multiset.mem_singleton_self _)
  unfold describeNetwork
  refine .valueOr (plain_on rfl rfl hnet) fun name => ?_
  refine .valueOr (plain_on rfl rfl hnet) fun uuid => ?_
  refine .valueOr (plain_on rfl rfl hnet) fun active => ?_
  refine .valueOr (plain_on rfl rfl hnet) fun persistent => ?_
  refine .valueOr (plain_on rfl rfl hnet) fun autostart => ?_
  exact .giveBack (returns_free .network net) fun _ => .pure rfl

variable {conn : Ref .connect}

theorem connected_tracks {α : Type} {f : Ref .connect → Go σ α} {post : α → Multiset Handle → Prop}
    {lost : Multiset Handle → Prop} (hlost : lost own)
    (h : Tracks handles base own (f conn) post lost) :
    Tracks handles base own (connected (some conn) >>= f) post lost := by
  have hconn : Tracks handles base own (connected (some conn) : Go σ _)
      (fun c l => c = conn ∧ l = own) lost :=
    .refuseIf hlost fun _ => .pure ⟨rfl, rfl⟩
  refine .bind hconn ?_
  rintro _ _ ⟨rfl, rfl⟩
  exact h

/-- The caller owns the new volume; the pool is freed. -/
theorem createDiskVolume_tracks (hconn : conn.handle ∈ base) (poolName diskName : String)
    (diskSizeGB : UInt64) :
    Tracks handles base 0 (createDiskVolume H (some conn) poolName diskName diskSizeGB)
      (fun out l => ∃ vol, out.1 = some vol ∧ l = {vol.handle}) (· = 0) := by
  unfold createDiskVolume
  refine connected_tracks rfl (.refuseIf rfl fun _ => ?_)
  refine .callThen (used_of_target rfl (mem_base hconn)) rfl rfl fun pool => ?_
  refine .deferCall (returns_free .pool pool) ?_
  have hpool : pool.handle ∈ base + ({pool.handle} + 0) :=
    mem_own (Multiset.mem_singleton_self _)
  refine .callThen (used_of_target rfl hpool) rfl ⟨0, rfl, rfl⟩ fun vol => ?_
  have hvol : vol.handle ∈ base + ({vol.handle} + ({pool.handle} + 0)) :=
    mem_own (Multiset.mem_add.mpr (.inl (Multiset.mem_singleton_self _)))
  refine .bind (.onError (returns_free .volume vol) ((Steady.call (plain_on rfl rfl hvol)).weaken
    (fun _ _ => id) ?_)) ?_
  · -- the new volume is freed here, and the pool on the way out
    rintro _ rfl
    exact ⟨{pool.handle}, ⟨0, rfl, rfl⟩, rfl⟩
  · rintro path _ rfl
    exact .pure ⟨{vol.handle}, ⟨vol, rfl, rfl⟩, Multiset.add_comm _ _⟩

theorem deleteDomainVolumes_steady (hconn : conn.handle ∈ base) (diskPaths : List String) :
    Steady handles base own (deleteDomainVolumes H (some conn) diskPaths) := by
  unfold deleteDomainVolumes
  refine connected_tracks rfl (Steady.next ?_ rfl fun _ => .pure rfl)
  induction diskPaths with
  | nil => exact .pure rfl
  | cons path paths ih =>
    rw [List.mapM_cons]
    refine Steady.next ?_ rfl fun _ => Steady.next ih rfl fun _ => .pure rfl
    unfold deleteVolume
    split
    · exact .pure rfl
    · refine .ask (used_of_target rfl (mem_base hconn)) rfl fun answer => ?_
      cases answer with
      | error err => exact .pure (zero_add own)
      | ok vol =>
        refine Steady.borrow (returns_free .volume vol) (Steady.call (plain_on rfl rfl ?_))
        exact mem_own (Multiset.mem_cons_self _ _)

end

/-! ## Connections -/

/-- The references in `g_conn` and `g_client`. -/
def Globals.kept (g : Globals) : Multiset Handle :=
  (g.conn.elim 0 fun conn => {conn.handle}) + (g.client.elim 0 fun cli => {cli.handle})

theorem getQEMU_eq : getQEMU H =
    cached H .newConnect Globals.conn (fun conn g => { g with conn := some conn }) := by
  funext w
  rw [getQEMU, cached, Effect.get_bind, Effect.get_bind]
  cases w.globals.conn with
  | none => rfl
  | some conn => rfl

theorem getClient_eq : getClient H =
    cached H .newClient Globals.client (fun cli g => { g with client := some cli }) := by
  funext w
  rw [getClient, cached, Effect.get_bind, Effect.get_bind]
  cases w.globals.client with
  | none => rfl
  | some cli => rfl

section
variable {α : Type} {lost : Multiset Handle → Prop}

abbrev Settles (m : Go σ α) (lost : Multiset Handle → Prop) : Prop :=
  Balanced handles Globals.kept m lost

theorem getQEMU_settles {f : Option (Ref .connect) → Go σ α} (hlost : lost 0)
    (h : ∀ conn, Tracks handles {conn.handle} 0 (f (some conn)) (fun _ l => l = 0) lost) :
    Settles (getQEMU H >>= f) lost := by
  rw [getQEMU_eq]
  refine Balanced.cached ⟨rfl, rfl, fun _ => rfl⟩ ?_ ?_ hlost h
  · intro g conn hconn
    rw [Globals.kept, hconn]
    exact Multiset.le_add_right _ _
  · intro g conn hconn
    simp [Globals.kept, hconn]

theorem getClient_settles {f : Option (Ref .client) → Go σ α} (hlost : lost 0)
    (h : ∀ cli, Tracks handles {cli.handle} 0 (f (some cli)) (fun _ l => l = 0) lost) :
    Settles (getClient H >>= f) lost := by
  rw [getClient_eq]
  refine Balanced.cached ⟨rfl, rfl, fun _ => rfl⟩ ?_ ?_ hlost h
  · intro g cli hcli
    rw [Globals.kept, hcli]
    exact Multiset.le_add_left _ _
  · intro g cli hcli
    simp only [Globals.kept, hcli, Option.elim_some, Option.elim_none, add_zero]
    exact Multiset.add_comm _ _

theorem unmarshalParams_settles {T : Type} {unmarshal : Json → Option T} {invalid : String}
    {cmd : NodeCommand} {f : T → Go σ α} (hlost : lost 0) (h : ∀ params, Settles (f params) lost) :
    Settles (unmarshalParams unmarshal invalid cmd >>= f) lost := by
  refine .bind (.of_tracks ?_) h
  unfold unmarshalParams
  cases cmd.params.bind unmarshal with
  | none => exact .fail hlost
  | some params => exact .pure rfl

theorem withDomain_settles {name : String} {body : Option (Ref .connect) → Ref .domain → Go σ α}
    (h : ∀ conn d, Steady handles {conn.handle} {d.handle} (body (some conn) d)) :
    Settles (withDomain H name body) (· = 0) := by
  unfold withDomain
  refine getQEMU_settles rfl fun conn => ?_
  have hlookup : Tracks handles {conn.handle} 0 (lookupDomainByName H (some conn) name)
      (fun p l => ∃ d, p = some d ∧ l = {d.handle}) (· = 0) := by
    unfold lookupDomainByName
    refine connected_tracks rfl (.refuseIf rfl fun _ => ?_)
    refine .callThen (used_of_target rfl (mem_base (Multiset.mem_singleton_self _))) rfl rfl
      fun d => ?_
    exact .pure ⟨d, rfl, add_zero _⟩
  refine .bind hlookup ?_
  rintro _ _ ⟨d, rfl, rfl⟩
  exact .deref (Steady.borrow (returns_free .domain d) (h conn d))

end

/-! ## Commands -/

section
variable (cmd : NodeCommand)

theorem handleLibvirtDomainsList_settles :
    Settles (handleLibvirtDomainsList H) (fun _ => True) := by
  refine getQEMU_settles trivial fun conn => ?_
  have hconn : conn.handle ∈ ({conn.handle} + 0 : Multiset Handle) := Multiset.mem_singleton_self _
  refine .callThen (used_of_target rfl hconn) rfl trivial fun domains => ?_
  refine .bind ((Tracks.mapM_deferCall (returns_free .domain) (fun d => ?_) domains).weaken
    (fun _ _ => id) fun _ _ => trivial) fun items l hl => .pure hl
  refine (describeDomain_steady (mem_own (Multiset.mem_singleton_self _))).weaken
    (fun _ _ => id) ?_
  rintro _ rfl
  exact le_rfl

theorem handleLibvirtStoragePoolsList_settles :
    Settles (handleLibvirtStoragePoolsList H) (fun _ => True) := by
  refine getQEMU_settles trivial fun conn => .bind ?_ fun pools l hl => .pure hl
  unfold listStoragePools
  refine connected_tracks trivial ?_
  have hconn : conn.handle ∈ ({conn.handle} + 0 : Multiset Handle) := Multiset.mem_singleton_self _
  refine .callThen (used_of_target rfl hconn) rfl trivial fun pools => ?_
  refine (Tracks.mapM_deferCall (returns_free .pool) (fun pool => ?_) pools).weaken
    (fun _ _ => id) fun _ _ => trivial
  exact describeStoragePool_tracks (mem_own (Multiset.mem_singleton_self _))

theorem handleLibvirtNetworksList_settles :
    Settles (handleLibvirtNetworksList H) (· = 0) := by
  refine getQEMU_settles rfl fun conn => .bind ?_ fun networks l hl => .pure hl
  unfold listNetworks
  refine connected_tracks rfl ?_
  have hconn : conn.handle ∈ ({conn.handle} + 0 : Multiset Handle) := Multiset.mem_singleton_self _
  refine .callThen (used_of_target rfl hconn) rfl rfl fun nets => ?_
  refine (Tracks.mapM describeNetwork_tracks nets).weaken (fun _ _ => id) ?_
  rintro _ ⟨⟨_, hfalse⟩, -⟩
  exact hfalse.elim

theorem handleLibvirtVMCreate_settles : Settles (handleLibvirtVMCreate H cmd) (· = 0) := by
  refine unmarshalParams_settles rfl fun params => .refuseIf rfl fun _ => ?_
  refine getQEMU_settles rfl fun conn => ?_
  have hconn : conn.handle ∈ ({conn.handle} : Multiset Handle) := Multiset.mem_singleton_self _
  refine .bind (createDiskVolume_tracks hconn _ _ _) ?_
  rintro ⟨_, diskPath⟩ _ ⟨vol, rfl, rfl⟩
  refine .deferCall (returns_free .volume vol) (.deref ?_)
  refine .callThen (used_of_target rfl (mem_base hconn)) rfl ⟨0, rfl, rfl⟩ fun domain => ?_
  have hdomain : domain.handle ∈ ({conn.handle} + domain.handle ::ₘ {vol.handle} : Multiset Handle) :=
    mem_own (Multiset.mem_cons_self _ _)
  have hvol : vol.handle ∈ ({conn.handle} + domain.handle ::ₘ {vol.handle} : Multiset Handle) :=
    mem_own (Multiset.mem_cons_of_mem (Multiset.mem_singleton_self _))
  have hown : handles.acquired (Call.domainDefineXML conn (buildDomainXML (namedParams params) diskPath))
      domain + {vol.handle} = domain.handle ::ₘ {vol.handle} := rfl
  rw [hown]
  refine (Steady.borrow (returns_free .domain domain) ?_).weaken ?_ ?_
  · refine Steady.next (.doIf (Steady.call (plain_on rfl rfl hdomain))) rfl fun _ => ?_
    refine Steady.next (.doIf (Steady.call (plain_on rfl rfl hdomain))) rfl fun _ => ?_
    refine .valueOr (plain_on rfl rfl hdomain) fun uuid => ?_
    exact .valueOr (plain_on rfl rfl hvol) fun volumeName => .pure rfl
  · rintro out _ rfl
    exact ⟨0, rfl, rfl⟩
  · rintro _ rfl
    exact ⟨0, rfl, rfl⟩

section
variable {base : Multiset Handle} {d : Ref .domain}

theorem mem_looked : d.handle ∈ base + {d.handle} := mem_own (Multiset.mem_singleton_self _)

theorem handleDomainAction_settles (action : DomainOp) :
    Settles (handleDomainAction H cmd action) (· = 0) := by
  refine unmarshalParams_settles rfl fun params => withDomain_settles fun _ d => ?_
  exact Steady.callThen (plain_on rfl rfl mem_looked) rfl fun _ => .pure rfl

theorem handleLibvirtVMSetAutostart_settles :
    Settles (handleLibvirtVMSetAutostart H cmd) (· = 0) := by
  refine unmarshalParams_settles rfl fun params => withDomain_settles fun _ d => ?_
  exact Steady.callThen (plain_on rfl rfl mem_looked) rfl fun _ => .pure rfl

theorem handleLibvirtVMAttachISO_settles : Settles (handleLibvirtVMAttachISO H cmd) (· = 0) := by
  refine unmarshalParams_settles rfl fun params => .refuseIf rfl fun _ => ?_
  refine withDomain_settles fun _ d => .valueOr (plain_on rfl rfl mem_looked) fun active => ?_
  exact Steady.callThen (plain_on rfl rfl mem_looked) rfl fun _ => .pure rfl

theorem handleLibvirtVMDetachISO_settles : Settles (handleLibvirtVMDetachISO H cmd) (· = 0) := by
  refine unmarshalParams_settles rfl fun params => ?_
  refine withDomain_settles fun _ d => .valueOr (plain_on rfl rfl mem_looked) fun active => ?_
  exact Steady.callThen (plain_on rfl rfl mem_looked) rfl fun _ => .pure rfl

theorem handleLibvirtVMDelete_settles : Settles (handleLibvirtVMDelete H cmd) (· = 0) := by
  refine unmarshalParams_settles rfl fun params => withDomain_settles fun conn d => ?_
  refine (describeDomain_steady mem_looked).next rfl fun ⟨_, diskPaths⟩ => ?_
  refine .valueOr (plain_on rfl rfl mem_looked) fun active => ?_
  refine Steady.next (.doIf (.refuseIf rfl fun _ => Steady.call (plain_on rfl rfl mem_looked))) rfl
    fun _ => ?_
  refine Steady.callThen (plain_on rfl rfl mem_looked) rfl fun _ => ?_
  refine Steady.next (.doIf (deleteDomainVolumes_steady ?_ diskPaths)) rfl fun _ => .pure rfl
  exact Multiset.mem_singleton_self _

end

/-- A plain call on the client. -/
theorem plain_client {c : Call} {cli : Ref .client} (htarget : c.target = some cli.handle)
    (hplain : c.plain = true) : handles.Plain ({cli.handle} + 0) c :=
  plain_on htarget hplain (Multiset.mem_singleton_self _)

theorem handleDockerContainersList_settles :
    Settles (handleDockerContainersList H) (· = 0) :=
  getClient_settles rfl fun _ =>
    .deref (Steady.callThen (plain_client rfl rfl) rfl fun _ => .pure rfl)

theorem handleDockerImagesList_settles : Settles (handleDockerImagesList H) (· = 0) :=
  getClient_settles rfl fun _ =>
    .deref (Steady.callThen (plain_client rfl rfl) rfl fun _ => .pure rfl)

theorem handleDockerImagePull_settles : Settles (handleDockerImagePull H cmd) (· = 0) := by
  refine unmarshalParams_settles rfl fun params => .refuseIf rfl fun _ => ?_
  refine getClient_settles rfl fun cli => .deref ?_
  have hcli : cli.handle ∈ ({cli.handle} + 0 : Multiset Handle) := Multiset.mem_singleton_self _
  refine .callThen (used_of_target rfl hcli) rfl rfl fun resp => ?_
  have hown : handles.acquired (Call.imagePull cli (trimSpace params.image)) resp + 0 =
      resp.handle ::ₘ 0 := rfl
  rw [hown]
  refine Steady.borrow (returns_free .pull resp) ?_
  refine Steady.callThen (plain_on rfl rfl ?_) rfl fun _ => .pure rfl
  exact mem_own (Multiset.mem_cons_self _ _)

theorem handleDockerImageRemove_settles : Settles (handleDockerImageRemove H cmd) (· = 0) := by
  refine unmarshalParams_settles rfl fun params => .refuseIf rfl fun _ => ?_
  refine getClient_settles rfl fun cli => .deref ?_
  exact Steady.callThen (plain_client rfl rfl) rfl fun items => .pure rfl

theorem handleDockerContainerCreate_settles (moby : Moby) :
    Settles (handleDockerContainerCreate H moby cmd) (· = 0) := by
  refine unmarshalParams_settles rfl fun params => .refuseIf rfl fun _ => ?_
  refine getClient_settles rfl fun cli => ?_
  split
  · exact .fail rfl
  · split
    · exact .fail rfl
    · refine .deref (Steady.callThen (plain_client rfl rfl) rfl fun res => ?_)
      refine Steady.next (.doIf (Steady.call (plain_client rfl rfl))) rfl fun _ => .pure rfl

theorem containerAction_settles {id : String} {action : Ref .client → Go σ Unit}
    (h : ∀ cli, Steady handles {cli.handle} 0 (action cli)) :
    Settles (containerAction H id action) (· = 0) := by
  refine .refuseIf rfl fun _ => getClient_settles rfl fun cli => .deref ?_
  exact (h cli).next rfl fun _ => .pure rfl

theorem handleDockerContainerStart_settles : Settles (handleDockerContainerStart H cmd) (· = 0) :=
  unmarshalParams_settles rfl fun _ =>
    containerAction_settles fun _ => Steady.call (plain_client rfl rfl)

theorem handleDockerContainerStop_settles : Settles (handleDockerContainerStop H cmd) (· = 0) :=
  unmarshalParams_settles rfl fun _ =>
    containerAction_settles fun _ => Steady.call (plain_client rfl rfl)

theorem handleDockerContainerRestart_settles :
    Settles (handleDockerContainerRestart H cmd) (· = 0) :=
  unmarshalParams_settles rfl fun _ =>
    containerAction_settles fun _ => Steady.call (plain_client rfl rfl)

theorem handleDockerContainerRemove_settles :
    Settles (handleDockerContainerRemove H cmd) (· = 0) :=
  unmarshalParams_settles rfl fun _ =>
    containerAction_settles fun _ => Steady.call (plain_client rfl rfl)

/-- The commands that stop at the first object they cannot describe. -/
def listings : List String := ["libvirt.domains.list", "libvirt.storage.pools.list"]

/-- Every command frees what it gets, other than a listing that fails. -/
theorem runCommand_settles (moby : Moby) (action : String) :
    Settles (runCommand H moby action cmd) (fun l => l = 0 ∨ action ∈ listings) := by
  have hnone : ∀ l : Multiset Handle, l = 0 → l = 0 ∨ action ∈ listings := fun _ => .inl
  unfold runCommand
  split
  · exact .map _ (handleDockerContainersList_settles.weaken hnone)
  · exact .map _ (handleDockerImagesList_settles.weaken hnone)
  · exact .map _ ((handleDockerImagePull_settles cmd).weaken hnone)
  · exact .map _ ((handleDockerImageRemove_settles cmd).weaken hnone)
  · exact .map _ ((handleDockerContainerCreate_settles cmd moby).weaken hnone)
  · exact .map _ ((handleDockerContainerStart_settles cmd).weaken hnone)
  · exact .map _ ((handleDockerContainerStop_settles cmd).weaken hnone)
  · exact .map _ ((handleDockerContainerRestart_settles cmd).weaken hnone)
  · exact .map _ ((handleDockerContainerRemove_settles cmd).weaken hnone)
  · exact .map _ (handleLibvirtDomainsList_settles.weaken fun _ _ => .inr (.head _))
  · exact .map _ (handleLibvirtStoragePoolsList_settles.weaken fun _ _ => .inr (.tail _ (.head _)))
  · exact .map _ (handleLibvirtNetworksList_settles.weaken hnone)
  · exact .map _ ((handleLibvirtVMCreate_settles cmd).weaken hnone)
  · exact .map _ ((handleDomainAction_settles cmd .create).weaken hnone)
  · exact .map _ ((handleDomainAction_settles cmd .shutdown).weaken hnone)
  · exact .map _ ((handleDomainAction_settles cmd .reboot).weaken hnone)
  · exact .map _ ((handleDomainAction_settles cmd .destroy).weaken hnone)
  · exact .map _ ((handleLibvirtVMDelete_settles cmd).weaken hnone)
  · exact .map _ ((handleLibvirtVMSetAutostart_settles cmd).weaken hnone)
  · exact .map _ ((handleLibvirtVMAttachISO_settles cmd).weaken hnone)
  · exact .map _ ((handleLibvirtVMDetachISO_settles cmd).weaken hnone)
  · exact .of_tracks (.pure rfl)

end

/-! ## Iterations of the loop -/

theorem plain_alone {there : Multiset Handle} {c : Call} (htarget : c.target = none)
    (hplain : c.plain = true) : handles.Plain there c where
  used r hr := by
    rw [handles] at hr
    simp only [htarget, Option.elim_none] at hr
    exact absurd hr (Multiset.notMem_zero r)
  released := by cases c <;> first | rfl | cases hplain
  acquired v := by cases c <;> first | rfl | cases hplain

theorem writeReply_settles (reply : Except String Packet) :
    Settles (writeReply H reply) (· = 0) := by
  cases reply with
  | error err => exact .of_tracks (.fail rfl)
  | ok p => exact .of_tracks (Steady.callThen (plain_alone rfl rfl) rfl fun _ => .pure rfl)

theorem handleHeartbeat_settles (packet : Packet) :
    Settles (handleHeartbeat H packet) (· = 0) := by
  refine .bind (.of_tracks ?_) fun hw => .bind (.of_tracks ?_) fun ram => ?_
  · refine .valueOr (plain_alone rfl rfl) fun ram => ?_
    refine .valueOr (plain_alone rfl rfl) fun cpuUsage => ?_
    exact .valueOr (plain_alone rfl rfl) fun cores => .index rfl fun cpu => .pure rfl
  · cases hw.ram with
    | none => exact .panic
    | some ram => exact .pure rfl
  · split
    · exact .of_tracks (.fail rfl)
    · exact writeReply_settles _

/-- The packet asks for a listing. -/
def IsListing (read : Except String Packet) : Prop :=
  ∃ packet action cmd, read = .ok packet ∧
    packetHandlers packet.type = some .handleNodeCommand ∧
    commandHandler packet = .ok (action, cmd) ∧ action ∈ listings

/-- The references held after the handling of a packet. -/
def Remains (start frame : Multiset Handle) (read : Except String Packet) :
    EStateM.Result Stop (World interface σ Globals) Packet → Prop
  | .ok reply w => ∃ l, handles.audit start w.events = some (w.globals.kept + (l + frame)) ∧
    (l = 0 ∨ IsListing read ∧ IsErrorReply reply)
  | .error (.error _) w => ∃ l, handles.audit start w.events = some (w.globals.kept + (l + frame)) ∧
    (l = 0 ∨ IsListing read)
  | .error (.panic _) w => ∃ held, handles.audit start w.events = some held

theorem Remains.of_settles {start frame : Multiset Handle} {read : Except String Packet}
    {m : Go σ Packet} {w : World interface σ Globals} (h : Settles m (· = 0))
    (haudit : handles.audit start w.events = some (w.globals.kept + frame)) :
    Remains start frame read (m w) := by
  have hm := h.run start frame w haudit
  cases hrun : m w with
  | ok reply w' =>
    rw [hrun] at hm
    exact ⟨0, by rw [zero_add]; exact hm, .inl rfl⟩
  | error stop w' =>
    rw [hrun] at hm
    cases stop with
    | error err =>
      obtain ⟨_, rfl, haudit'⟩ := hm
      exact ⟨0, haudit', .inl rfl⟩
    | panic p => exact hm

/-- The handling of a command whose program has failed: the error is
reported. -/
theorem remains_of_error {start frame l : Multiset Handle} {read : Except String Packet}
    {id err : String} {w : World interface σ Globals}
    (haudit : handles.audit start w.events = some (w.globals.kept + (l + frame)))
    (hl : l = 0 ∨ IsListing read) :
    Remains start frame read
      (writeReply H (writeCommandReply id (handlerReply (.error err))) w) := by
  obtain ⟨p, hp, herror⟩ : ∃ p, writeCommandReply id (handlerReply (.error err)) = .ok p ∧
      IsErrorReply p := ⟨_, writeCommandReply_ok id _, _, rfl, rfl, rfl⟩
  have hwrite := (writeReply_settles (H := H) (.ok p)).run start (l + frame) w haudit
  rw [hp]
  cases hanswer : (H.answer (.writePacket p) w.host).1 with
  | error writeErr =>
    rw [writeReply, Effect.bind_error (call_error hanswer)] at hwrite ⊢
    obtain ⟨_, rfl, haudit'⟩ := hwrite
    rw [zero_add] at haudit'
    exact ⟨l, haudit', hl⟩
  | ok v =>
    rw [writeReply, Effect.bind_ok (call_ok hanswer)] at hwrite ⊢
    exact ⟨l, hwrite, hl.imp_right fun hlisting => ⟨hlisting, herror⟩⟩

theorem runHandler_remains {moby : Moby} {packet : Packet} {handler : PacketHandler}
    (hhandler : packetHandlers packet.type = some handler) {start frame : Multiset Handle}
    {w : World interface σ Globals}
    (haudit : handles.audit start w.events = some (w.globals.kept + frame)) :
    Remains start frame (.ok packet) (runHandler H moby packet handler w) := by
  cases handler with
  | handleHeartbeat => exact .of_settles (handleHeartbeat_settles packet) haudit
  | handleNodeCommand =>
    show Remains start frame (.ok packet) (handleNodeCommand H moby packet w)
    unfold handleNodeCommand
    cases hcmd : commandHandler packet with
    | error reply => exact .of_settles (writeReply_settles _) haudit
    | ok found =>
      have hm := (runCommand_settles (H := H) found.2 moby found.1).run start frame w haudit
      dsimp only
      cases hrun : runCommand H moby found.1 found.2 w with
      | ok output w' =>
        rw [hrun] at hm
        rw [Effect.bind_ok (catchError_ok hrun)]
        exact .of_settles (writeReply_settles _) hm
      | error stop w' =>
        rw [hrun] at hm
        cases stop with
        | error err =>
          obtain ⟨l, hl, haudit'⟩ := hm
          rw [Effect.bind_ok (catchError_error hrun)]
          refine remains_of_error haudit' (hl.imp_right fun hlisting => ?_)
          exact ⟨packet, found.1, found.2, rfl, hhandler, hcmd, hlisting⟩
        | panic p =>
          rw [Effect.bind_error (catchError_panic hrun)]
          exact hm

/-- The iteration ends in an error reply or a logged return. -/
def Ending.Reported : Ending → Prop
  | .replied reply => IsErrorReply reply
  | .returned _ => True
  | _ => False

/-- The references held after an iteration. -/
def Closes (start frame : Multiset Handle) (read : Except String Packet) :
    EStateM.Result Stop (World interface σ Globals) Ending → Prop
  | .ok ending w => ∃ l, handles.audit start w.events = some (w.globals.kept + (l + frame)) ∧
    (l = 0 ∨ IsListing read ∧ ending.Reported)
  | .error (.error _) _ => False
  | .error (.panic _) w => ∃ held, handles.audit start w.events = some held

theorem serve_closes (moby : Moby) (read : Except String Packet) {start frame : Multiset Handle}
    {w : World interface σ Globals}
    (haudit : handles.audit start w.events = some (w.globals.kept + frame)) :
    Closes start frame read (serve H moby read w) := by
  have hkept : handles.audit start w.events = some (w.globals.kept + (0 + frame)) := by
    rw [zero_add]
    exact haudit
  unfold serve
  cases read with
  | error err => exact ⟨0, hkept, .inl rfl⟩
  | ok packet =>
    dsimp only
    cases hhandler : packetHandlers packet.type with
    | none => exact ⟨0, hkept, .inl rfl⟩
    | some handler =>
      have hm : Remains start frame (.ok packet) (runHandler H moby packet handler w) :=
        runHandler_remains hhandler haudit
      dsimp only
      cases hrun : runHandler H moby packet handler w with
      | ok reply w' =>
        rw [hrun] at hm
        rw [Effect.bind_ok (catchError_ok hrun)]
        exact hm
      | error stop w' =>
        rw [hrun] at hm
        cases stop with
        | error err =>
          obtain ⟨l, haudit', hl⟩ := hm
          rw [Effect.bind_ok (catchError_error hrun)]
          exact ⟨l, haudit', hl.imp_right fun hlisting => ⟨hlisting, trivial⟩⟩
        | panic p =>
          rw [Effect.bind_error (catchError_panic hrun)]
          exact hm

/-! ## Runs -/

/-- The kinds of objects that a command has to free. The others are kept as
long as the slave runs. -/
def Kind.transient : Kind → Bool
  | .domain | .network | .pool | .volume | .pull => true
  | .nft | .connect | .client => false

def transients (held : Multiset Handle) : Multiset Handle :=
  held.filter fun r => r.kind.transient = true

theorem transients_kept (g : Globals) (frame : Multiset Handle) :
    transients (g.kept + frame) = transients frame := by
  have hkept : transients g.kept = 0 := by
    refine Multiset.filter_eq_nil.mpr fun r hr => ?_
    rcases Multiset.mem_add.mp hr with hr | hr
    · cases hconn : g.conn with
      | none => simp [hconn] at hr
      | some conn =>
        rw [hconn] at hr
        rw [Multiset.mem_singleton.mp hr]
        exact nofun
    · cases hclient : g.client with
      | none => simp [hclient] at hr
      | some cli =>
        rw [hclient] at hr
        rw [Multiset.mem_singleton.mp hr]
        exact nofun
  unfold transients at hkept ⊢
  rw [Multiset.filter_add, hkept, zero_add]

/-- An iteration that a listing did not fail in, and that did not panic. -/
def Served.Orderly (step : Served) : Prop :=
  (∀ p, step.ending ≠ .panicked p) ∧ ¬ (IsListing step.read ∧ step.ending.Reported)

/-- Iterations that pass the audit, and that leave the objects held as they
were if they are orderly. -/
def Audited (held : Multiset Handle) : List Served → Prop
  | [] => True
  | step :: rest => ∃ held', handles.audit held step.events = some held' ∧
    (step.Orderly → transients held' = transients held) ∧ Audited held' rest

/-- The iterations pass the audit one after the other. -/
theorem Audited.audit {held : Multiset Handle} {served : List Served} (h : Audited held served) :
    ∃ final, handles.audit held (served.flatMap Served.events) = some final := by
  induction served generalizing held with
  | nil => exact ⟨held, rfl⟩
  | cons step rest ih =>
    obtain ⟨held', haudit, -, hrest⟩ := h
    obtain ⟨final, hfinal⟩ := ih hrest
    exact ⟨final, by rw [List.flatMap_cons, Handles.audit_append haudit, hfinal]⟩

theorem packetLoop_audited (moby : Moby) (reads : List (Except String Packet))
    (w : World interface σ Globals) (frame : Multiset Handle) :
    Audited (w.globals.kept + frame) (packetLoop H moby w reads) := by
  induction reads generalizing w frame with
  | nil => trivial
  | cons read reads ih =>
    have hserve : Closes (w.globals.kept + frame) frame read
        (serve H moby read { w with events := [] }) := serve_closes moby read rfl
    -- what an iteration loses is in the frame of the next one
    have hstep : ∀ (w' : World interface σ Globals) (l : Multiset Handle) (ending : Ending),
        (l = 0 ∨ IsListing read ∧ ending.Reported) →
        (⟨read, w'.events, ending⟩ : Served).Orderly →
          transients (w'.globals.kept + (l + frame)) = transients (w.globals.kept + frame) := by
      intro w' l ending hl horderly
      rw [transients_kept, transients_kept, hl.resolve_right horderly.2, zero_add]
    rw [packetLoop]
    split
    · next p w' hrun =>
      rw [hrun] at hserve
      obtain ⟨held, haudit⟩ := hserve
      exact ⟨held, haudit, fun horderly => absurd rfl (horderly.1 p), trivial⟩
    · next err w' hrun =>
      rw [hrun] at hserve
      exact hserve.elim
    · next err w' hrun =>
      rw [hrun] at hserve
      obtain ⟨l, haudit, hl⟩ := hserve
      exact ⟨_, haudit, hstep w' l _ hl, trivial⟩
    · next ending w' _ hrun =>
      rw [hrun] at hserve
      obtain ⟨l, haudit, hl⟩ := hserve
      exact ⟨_, haudit, hstep w' l ending hl, ih w' (l + frame)⟩

theorem setupFirewall_tracks (master : String) :
    Tracks handles 0 0 (setupFirewall H master) (fun _ l => transients l = 0)
      (fun l => transients l = 0) := by
  have hzero : transients 0 = 0 := rfl
  refine .callThen (fun r hr => absurd hr (Multiset.notMem_zero r)) rfl hzero fun nft => ?_
  have hnft : transients ({nft.handle} + 0) = 0 := rfl
  refine .index hnft fun part => (Steady.call (plain_on rfl rfl ?_)).weaken ?_ ?_
  · exact mem_own (Multiset.mem_singleton_self _)
  · rintro _ _ rfl
    exact hnft
  · rintro _ rfl
    exact hnft

/-- Printing the networks settles as it would if the error of `GetQEMU` were
returned. -/
theorem printNetworks_settles : Settles (printNetworks H) (· = 0) := by
  have hreturned : Settles (do
      let qemu ← deref (← getQEMU H)
      let _ ← valueOr H (.listNetworks qemu) []
      pure () : Go σ Unit) (· = 0) := by
    refine getQEMU_settles rfl fun conn => .deref ?_
    refine .valueOr (plain_on rfl rfl ?_) fun _ => .pure rfl
    exact mem_base (Multiset.mem_singleton_self _)
  refine ⟨fun start frame w haudit => ?_⟩
  have hm := hreturned.run start frame w haudit
  unfold printNetworks
  cases hrun : getQEMU H w with
  | ok qemu w' =>
    rw [Effect.bind_ok hrun] at hm
    rw [Effect.bind_ok (catchError_ok hrun)]
    exact hm
  | error stop w' =>
    rw [Effect.bind_error hrun] at hm
    cases stop with
    | error err =>
      -- the nil connection is used here
      obtain ⟨_, _, haudit'⟩ := hm
      rw [Effect.bind_ok (catchError_error hrun)]
      exact ⟨_, haudit'⟩
    | panic p =>
      rw [Effect.bind_error (catchError_panic hrun)]
      exact hm

/-- Before the loop only what the slave keeps is held. -/
theorem setup_audited (master : String) (s : σ) :
    match setup H master { host := s, globals := {} } with
    | .error (.panic _) w => ∃ held, handles.audit 0 w.events = some held
    | .ok _ w | .error (.error _) w =>
      ∃ frame, handles.audit 0 w.events = some (w.globals.kept + frame) ∧ transients frame = 0 := by
  have hfirewall := (setupFirewall_tracks (H := H) master).catchError.run 0 0
    { host := s, globals := {} } rfl
  unfold setup
  cases hrun : catchError (setupFirewall H master) { host := s, globals := {} } with
  | error stop w =>
    rw [hrun] at hfirewall
    rw [Effect.bind_error hrun]
    cases stop with
    | error err => exact hfirewall.2.elim fun _ hfalse => hfalse.1.elim
    | panic p => exact hfirewall
  | ok firewall w =>
    rw [hrun] at hfirewall
    obtain ⟨hglobals, held, hheld, haudit⟩ := hfirewall
    have hkept : handles.audit 0 w.events = some (w.globals.kept + held) := by
      rw [haudit, hglobals, add_zero]
      rfl
    have hprint := (printNetworks_settles (H := H)).run 0 held w hkept
    rw [Effect.bind_ok hrun]
    cases hnetworks : printNetworks H w with
    | ok u w' =>
      rw [hnetworks] at hprint
      rw [Effect.bind_ok hnetworks]
      exact ⟨held, hprint, hheld⟩
    | error stop w' =>
      rw [hnetworks] at hprint
      rw [Effect.bind_error hnetworks]
      cases stop with
      | error err =>
        obtain ⟨_, rfl, haudit'⟩ := hprint
        exact ⟨0 + held, haudit', by rw [zero_add]; exact hheld⟩
      | panic p => exact hprint

/-- When the loop starts no objects are held. -/
theorem connect_audited (H : Host interface σ) (moby : Moby) (s : σ) (master : String)
    (reads : List (Except String Packet)) :
    ∃ held, handles.audit 0 (connect H moby s master reads).setup = some held ∧
      ((connect H moby s master reads).panic = none → transients held = 0) ∧
      Audited held (connect H moby s master reads).served := by
  have hsetup := setup_audited (H := H) master s
  unfold connect
  cases hrun : setup H master { host := s, globals := {} } with
  | ok firewall w =>
    rw [hrun] at hsetup
    obtain ⟨frame, haudit, hframe⟩ := hsetup
    refine ⟨_, haudit, fun _ => ?_, packetLoop_audited moby reads w frame⟩
    rw [transients_kept, hframe]
  | error stop w =>
    rw [hrun] at hsetup
    cases stop with
    | error err =>
      obtain ⟨frame, haudit, hframe⟩ := hsetup
      refine ⟨_, haudit, fun _ => ?_, trivial⟩
      rw [transients_kept, hframe]
    | panic p =>
      obtain ⟨held, haudit⟩ := hsetup
      exact ⟨held, haudit, nofun, trivial⟩

/-- In every run of `Connect`, on any host, each call is made on references
that are held then. When the loop starts no objects are held, and every
orderly iteration leaves those held as they were. -/
theorem references_audited (H : Host interface σ) (moby : Moby) (s : σ) (master : String)
    (reads : List (Except String Packet)) :
    (∃ final, handles.audit 0 (connect H moby s master reads).events = some final) ∧
    ∃ held, handles.audit 0 (connect H moby s master reads).setup = some held ∧
      ((connect H moby s master reads).panic = none → transients held = 0) ∧
      Audited held (connect H moby s master reads).served := by
  obtain ⟨held, hsetup, hnone, hserved⟩ := connect_audited H moby s master reads
  obtain ⟨final, hfinal⟩ := hserved.audit
  refine ⟨⟨final, ?_⟩, held, hsetup, hnone, hserved⟩
  rw [ConnectRun.events, Handles.audit_append hsetup, hfinal]

/-- A host with two domains that cannot be described. -/
def namelessHost : Host interface Unit where
  answer c s := (match c with
    | .newConnect => .ok ⟨"qemu:///system"⟩
    | .listAll .domain _ => .ok [⟨"a"⟩, ⟨"b"⟩]
    | .free _ _ => .ok ()
    | .writePacket _ => .ok ()
    | _ => .error "unavailable", s)

/-- The second one is never freed. -/
example : (handles.audit 0 (connect namelessHost demoMoby () "10.0.0.1:49149"
    [.ok { type := packetNodeCommand, id := "c1",
           payload := some (.obj [("action", .str "libvirt.domains.list")]) }]).events).map transients =
      some {⟨.domain, "b"⟩} := rfl

end Centralisd.Slave.Process
