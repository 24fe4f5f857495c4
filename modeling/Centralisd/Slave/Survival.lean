import Centralisd.Slave.Process

/-!
# Centralisd — what the slave survives

Panics of the slave after the handshake, and failures that nobody gets to
see, whatever its host answers and whatever packets the master sends.

Each function is `Guarded`, once there is a connection to libvirt: it does
not panic, and a call that fails makes it return an error, unless the source
drops the error (`runCommand_guarded`, for every command). Two places are
not. `Connect` drops the error of `GetQEMU` and uses the nil connection
(`printNetworks_cases`), and `GetHardwareInfo` logs the error of
`cpu.Percent` and indexes the empty slice (`getHardwareInfo_cases`).

`slave_survives` puts this together for a run. It is without a panic exactly
if no call in it has one of these two answers. If moreover no call fails
whose error the source drops (`uuid, _ := domain.GetUUIDString()`, which goes
on with a zero value; `Call.droppable` lists these calls), then every failure
ends in an error reply that is written or in a logged return.
-/

namespace Centralisd.Slave.Process

open Runtime

variable {σ : Type} {H : Host interface σ}

/-- The calls with answers that the slave does not survive. -/
def Call.risky : Call → Bool
  | .newConnect | .percent => true
  | _ => false

/-- `NewConnect` fails, or `cpu.Percent` returns no sample. -/
def Fatal : Event interface → Prop
  | ⟨.newConnect, .error _, _⟩ => True
  | ⟨.percent, .error _, _⟩ => True
  | ⟨.percent, .ok samples, _⟩ => List.isEmpty samples = true
  | _ => False

/-- The calls whose error the source drops, wherever it makes them or (the
name and the path of a volume) in one of two places. -/
def Call.droppable : Call → Bool
  | .listNetworks _ | .lookup .volume _ _ | .getName .network _ | .getName .volume _
  | .getUUIDString _ _ | .isActive _ _ | .isPersistent _ _ | .getAutostart _ _
  | .getXMLDesc _ _ | .getID _ | .getDomainInfo _ | .getStorageInfo _ _ | .getKey _
  | .getPath _ | .free _ _ | .virtualMemory | .percent | .counts => true
  | _ => false

/-- A call has failed whose error the source drops. -/
def Dropped (e : Event interface) : Prop := e.failed = true ∧ e.tolerated = true

def Call.writes : Call → Bool
  | .writePacket _ => true
  | _ => false

/-- What is never seen before a reply is written: an error dropped at a call
for which the source drops none, or a packet written. -/
def Odd (e : Event interface) : Prop :=
  (e.tolerated = true ∧ e.call.droppable = false) ∨ e.call.writes = true

/-- What a guarded function does not see. -/
def Forbidden (e : Event interface) : Prop := Fatal e ∨ Odd e

/-- A call that is not odd. -/
def Call.ordinary (c : Call) (tolerated : Bool) : Bool :=
  (!tolerated || c.droppable) && !c.writes

section
variable {c : Call} {tolerated : Bool}

theorem not_fatal (h : c.risky = false) (answer : Except String (interface.Val c)) :
    ¬ Fatal ⟨c, answer, tolerated⟩ := by
  cases c with
  | newConnect => cases h
  | percent => cases h
  | _ => exact id

theorem not_odd (h : c.ordinary tolerated = true) (answer : Except String (interface.Val c)) :
    ¬ Odd ⟨c, answer, tolerated⟩ := by
  simp only [Call.ordinary, Bool.and_eq_true, Bool.not_eq_true', Bool.or_eq_true] at h
  obtain ⟨hdrop, hwrites⟩ := h
  rintro (⟨htolerated, hdroppable⟩ | hwrite)
  · rcases hdrop with hnot | hdrop
    · cases hnot.symm.trans htolerated
    · cases hdrop.symm.trans hdroppable
  · cases hwrites.symm.trans hwrite

/-- A call that may be made, whatever is answered. -/
theorem harmless (h : (!c.risky && c.ordinary tolerated) = true)
    (answer : Except String (interface.Val c)) : ¬ Forbidden ⟨c, answer, tolerated⟩ := by
  rw [Bool.and_eq_true, Bool.not_eq_true'] at h
  exact not_or.mpr ⟨not_fatal h.1 answer, not_odd h.2 answer⟩

end

/-- There is a connection to libvirt. -/
def Connected (g : Globals) : Prop := g.conn.isSome = true

abbrev Guards {α : Type} (m : Go σ α) (Q : α → Prop) : Prop := Guarded Connected Forbidden m Q

abbrev Any {α : Type} (_ : α) : Prop := True

section
variable {α : Type} {Q : α → Prop}

theorem getQEMU_guarded {f : Option (Ref .connect) → Go σ α}
    (h : ∀ conn, Guards (f (some conn)) Q) : Guards (getQEMU H >>= f) Q := by
  refine .bind (Q := fun p => ∃ conn, p = some conn) (.read fun w hw => ?_) ?_
  · -- `g_conn` is set, so `NewConnect` is not called
    obtain ⟨conn, hconn⟩ := Option.isSome_iff_exists.mp hw
    rw [hconn]
    exact .pure ⟨conn, rfl⟩
  · rintro _ ⟨conn, rfl⟩
    exact h conn

theorem getClient_guarded {f : Option (Ref .client) → Go σ α}
    (h : ∀ cli, Guards (f (some cli)) Q) : Guards (getClient H >>= f) Q := by
  refine .bind (Q := fun p => ∃ cli, p = some cli) (.read fun w _ => ?_) ?_
  · cases w.globals.client with
    | some cli => exact .pure ⟨cli, rfl⟩
    | none =>
      refine .callThen (harmless rfl) fun cli => ?_
      exact .assign (fun _ => id) (.pure ⟨cli, rfl⟩)
  · rintro _ ⟨cli, rfl⟩
    exact h cli

theorem connected_guarded {conn : Ref .connect} {f : Ref .connect → Go σ α}
    (h : Guards (f conn) Q) : Guards (connected (some conn) >>= f) Q := by
  refine .bind (Q := fun c => c = conn) (.refuseIf fun _ => ?_) ?_
  · exact .pure rfl
  · rintro _ rfl
    exact h

end

/-! ## `vm.go` -/

theorem describeDomain_guarded (d : Ref .domain) : Guards (describeDomain H (some d)) Any := by
  unfold describeDomain
  refine .refuseIf fun _ => .deref ?_
  refine .callThen (harmless rfl) fun name => ?_
  refine .valueOr (harmless rfl) fun uuid => ?_
  refine .valueOr (harmless rfl) fun id => ?_
  refine .valueOr (harmless rfl) fun active => ?_
  refine .valueOr (harmless rfl) fun persistent => ?_
  refine .valueOr (harmless rfl) fun autostart => ?_
  refine .pointer (harmless rfl) fun info => ?_
  refine .valueOr (harmless rfl) fun xmlDesc => ?_
  cases info with
  | none => exact .pure trivial
  | some info => exact .pure trivial

theorem describeStorageVolume_guarded (vol : Ref .volume) :
    Guards (describeStorageVolume H (some vol)) Any := by
  unfold describeStorageVolume
  refine .refuseIf fun _ => .deref ?_
  refine .callThen (harmless rfl) fun name => ?_
  refine .valueOr (harmless rfl) fun key => ?_
  refine .valueOr (harmless rfl) fun path => ?_
  refine .pointer (harmless rfl) fun info => ?_
  refine .valueOr (harmless rfl) fun xmlDesc => ?_
  cases info with
  | none => exact .pure trivial
  | some info => exact .pure trivial

theorem describeStoragePool_guarded (pool : Ref .pool) :
    Guards (describeStoragePool H (some pool)) Any := by
  unfold describeStoragePool
  refine .refuseIf fun _ => .deref ?_
  refine .callThen (harmless rfl) fun name => ?_
  refine .valueOr (harmless rfl) fun uuid => ?_
  refine .valueOr (harmless rfl) fun active => ?_
  refine .valueOr (harmless rfl) fun persistent => ?_
  refine .valueOr (harmless rfl) fun autostart => ?_
  refine .pointer (harmless rfl) fun info => ?_
  refine .callThen (harmless rfl) fun vols => ?_
  refine .bind (.mapM (fun vol => ?_) vols) fun volumes _ => ?_
  · exact .deferCall (harmless rfl) (describeStorageVolume_guarded vol)
  · cases info with
    | none => exact .pure trivial
    | some info => exact .pure trivial

theorem describeNetwork_guarded (net : Ref .network) : Guards (describeNetwork H net) Any := by
  unfold describeNetwork
  refine .valueOr (harmless rfl) fun name => ?_
  refine .valueOr (harmless rfl) fun uuid => ?_
  refine .valueOr (harmless rfl) fun active => ?_
  refine .valueOr (harmless rfl) fun persistent => ?_
  refine .valueOr (harmless rfl) fun autostart => ?_
  exact .valueOr (harmless rfl) fun _ => .pure trivial

theorem createDiskVolume_guarded (conn : Ref .connect) (poolName diskName : String)
    (diskSizeGB : UInt64) :
    Guards (createDiskVolume H (some conn) poolName diskName diskSizeGB) Any := by
  unfold createDiskVolume
  refine connected_guarded (.refuseIf fun _ => ?_)
  refine .callThen (harmless rfl) fun pool => .deferCall (harmless rfl) ?_
  refine .callThen (harmless rfl) fun vol => ?_
  exact .bind (.onError (harmless rfl) (.call (harmless rfl))) fun path _ => .pure trivial

theorem deleteDomainVolumes_guarded (conn : Ref .connect) (diskPaths : List String) :
    Guards (deleteDomainVolumes H (some conn) diskPaths) Any := by
  unfold deleteDomainVolumes
  refine connected_guarded (.bind (.mapM (fun path => ?_) diskPaths) fun _ _ => .pure trivial)
  unfold deleteVolume
  split
  · exact .pure trivial
  · refine .ask (harmless rfl) fun answer => ?_
    cases answer with
    | error err => exact .pure trivial
    | ok vol => exact .deferCall (harmless rfl) (.call (harmless rfl))

/-! ## Handlers -/

section
variable {α : Type} {Q : α → Prop}

theorem unmarshalParams_guarded {T : Type} {unmarshal : Json → Option T} {invalid : String}
    {cmd : NodeCommand} {f : T → Go σ α} (h : ∀ params, Guards (f params) Q) :
    Guards (unmarshalParams unmarshal invalid cmd >>= f) Q := by
  refine .bind (Q := Any) ?_ fun params _ => h params
  unfold unmarshalParams
  cases cmd.params.bind unmarshal with
  | none => exact .fail invalid
  | some params => exact .pure trivial

theorem withDomain_guarded {name : String} {body : Option (Ref .connect) → Ref .domain → Go σ α}
    (h : ∀ conn d, Guards (body (some conn) d) Q) : Guards (withDomain H name body) Q := by
  unfold withDomain
  refine getQEMU_guarded fun conn => ?_
  refine .bind (Q := fun p => ∃ d, p = some d) ?_ ?_
  · unfold lookupDomainByName
    refine connected_guarded (.refuseIf fun _ => ?_)
    exact .callThen (harmless rfl) fun d => .pure ⟨d, rfl⟩
  · rintro _ ⟨d, rfl⟩
    exact .deref (.deferCall (harmless rfl) (h conn d))

end

section
variable (cmd : NodeCommand)

theorem handleLibvirtDomainsList_guarded : Guards (handleLibvirtDomainsList H) Any := by
  refine getQEMU_guarded fun conn => ?_
  refine .bind (Q := Any) (.deref (.call (harmless rfl))) fun domains _ => ?_
  refine .bind (.mapM (fun d => ?_) domains) fun _ _ => .pure trivial
  exact .deferCall (harmless rfl) (describeDomain_guarded d)

theorem handleLibvirtStoragePoolsList_guarded : Guards (handleLibvirtStoragePoolsList H) Any := by
  refine getQEMU_guarded fun conn => .bind (Q := Any) ?_ fun _ _ => .pure trivial
  unfold listStoragePools
  refine connected_guarded (.callThen (harmless rfl) fun pools => .mapM (fun pool => ?_) pools)
  exact .deferCall (harmless rfl) (describeStoragePool_guarded pool)

theorem handleLibvirtNetworksList_guarded : Guards (handleLibvirtNetworksList H) Any := by
  refine getQEMU_guarded fun conn => .bind (Q := Any) ?_ fun _ _ => .pure trivial
  unfold listNetworks
  exact connected_guarded (.callThen (harmless rfl) fun nets => .mapM describeNetwork_guarded nets)

theorem deferFree_guarded {α : Type} {vol : Option (Ref .volume)} {m : Go σ α} {Q : α → Prop}
    (h : Guards m Q) : Guards (deferFree H vol m) Q := by
  cases vol with
  | none => exact h
  | some vol => exact .deferCall (harmless rfl) h

theorem handleLibvirtVMCreate_guarded : Guards (handleLibvirtVMCreate H cmd) Any := by
  refine unmarshalParams_guarded fun params => .refuseIf fun _ => ?_
  refine getQEMU_guarded fun conn => ?_
  refine .bind (createDiskVolume_guarded conn _ _ _) fun ⟨vol, diskPath⟩ _ => ?_
  refine deferFree_guarded (.deref ?_)
  refine .callThen (harmless rfl) fun domain => .deferCall (harmless rfl) ?_
  refine .bind (.doIf trivial (.call (harmless rfl))) fun _ _ => ?_
  refine .bind (.doIf trivial (.call (harmless rfl))) fun _ _ => ?_
  refine .valueOr (harmless rfl) fun uuid => ?_
  cases vol with
  | none => exact .pure trivial
  | some vol => exact .valueOr (harmless rfl) fun volumeName => .pure trivial

theorem handleDomainAction_guarded (action : DomainOp) :
    Guards (handleDomainAction H cmd action) Any := by
  refine unmarshalParams_guarded fun params => withDomain_guarded fun _ domain => ?_
  exact .callThen (harmless rfl) fun _ => .pure trivial

theorem handleLibvirtVMSetAutostart_guarded : Guards (handleLibvirtVMSetAutostart H cmd) Any := by
  refine unmarshalParams_guarded fun params => withDomain_guarded fun _ domain => ?_
  exact .callThen (harmless rfl) fun _ => .pure trivial

theorem handleLibvirtVMAttachISO_guarded : Guards (handleLibvirtVMAttachISO H cmd) Any := by
  refine unmarshalParams_guarded fun params => .refuseIf fun _ => ?_
  refine withDomain_guarded fun _ domain => .valueOr (harmless rfl) fun active => ?_
  exact .callThen (harmless rfl) fun _ => .pure trivial

theorem handleLibvirtVMDetachISO_guarded : Guards (handleLibvirtVMDetachISO H cmd) Any := by
  refine unmarshalParams_guarded fun params => ?_
  refine withDomain_guarded fun _ domain => .valueOr (harmless rfl) fun active => ?_
  exact .callThen (harmless rfl) fun _ => .pure trivial

theorem handleLibvirtVMDelete_guarded : Guards (handleLibvirtVMDelete H cmd) Any := by
  refine unmarshalParams_guarded fun params => withDomain_guarded fun conn domain => ?_
  refine .bind (describeDomain_guarded domain) fun ⟨_, diskPaths⟩ _ => ?_
  refine .valueOr (harmless rfl) fun active => ?_
  refine .bind (.doIf trivial (.refuseIf fun _ => .call (harmless rfl))) fun _ _ => ?_
  refine .callThen (harmless rfl) fun _ => ?_
  exact .bind (.doIf trivial (deleteDomainVolumes_guarded conn diskPaths)) fun _ _ => .pure trivial

theorem handleDockerContainersList_guarded : Guards (handleDockerContainersList H) Any :=
  getClient_guarded fun _ => .deref (.callThen (harmless rfl) fun _ => .pure trivial)

theorem handleDockerImagesList_guarded : Guards (handleDockerImagesList H) Any :=
  getClient_guarded fun _ => .deref (.callThen (harmless rfl) fun _ => .pure trivial)

theorem handleDockerImagePull_guarded : Guards (handleDockerImagePull H cmd) Any := by
  refine unmarshalParams_guarded fun params => .refuseIf fun _ => ?_
  refine getClient_guarded fun cli => .deref (.callThen (harmless rfl) fun resp => ?_)
  exact .deferCall (harmless rfl) (.callThen (harmless rfl) fun _ => .pure trivial)

theorem handleDockerImageRemove_guarded : Guards (handleDockerImageRemove H cmd) Any := by
  refine unmarshalParams_guarded fun params => .refuseIf fun _ => ?_
  exact getClient_guarded fun cli => .deref (.callThen (harmless rfl) fun items => .pure trivial)

theorem handleDockerContainerCreate_guarded (moby : Moby) :
    Guards (handleDockerContainerCreate H moby cmd) Any := by
  refine unmarshalParams_guarded fun params => .refuseIf fun _ => ?_
  refine getClient_guarded fun cli => ?_
  split
  · exact .fail _
  · split
    · exact .fail _
    · refine .deref (.callThen (harmless rfl) fun res => ?_)
      exact .bind (.doIf trivial (.call (harmless rfl))) fun _ _ => .pure trivial

theorem containerAction_guarded {id : String} {action : Ref .client → Go σ Unit}
    (h : ∀ cli, Guards (action cli) Any) : Guards (containerAction H id action) Any := by
  refine .refuseIf fun _ => getClient_guarded fun cli => .deref ?_
  exact .bind (h cli) fun _ _ => .pure trivial

theorem handleDockerContainerStart_guarded : Guards (handleDockerContainerStart H cmd) Any :=
  unmarshalParams_guarded fun _ => containerAction_guarded fun _ => .call (harmless rfl)

theorem handleDockerContainerStop_guarded : Guards (handleDockerContainerStop H cmd) Any :=
  unmarshalParams_guarded fun _ => containerAction_guarded fun _ => .call (harmless rfl)

theorem handleDockerContainerRestart_guarded : Guards (handleDockerContainerRestart H cmd) Any :=
  unmarshalParams_guarded fun _ => containerAction_guarded fun _ => .call (harmless rfl)

theorem handleDockerContainerRemove_guarded : Guards (handleDockerContainerRemove H cmd) Any :=
  unmarshalParams_guarded fun _ => containerAction_guarded fun _ => .call (harmless rfl)

/-- No command panics, once there is a connection to libvirt. -/
theorem runCommand_guarded (moby : Moby) (action : String) :
    Guards (runCommand H moby action cmd) Any := by
  unfold runCommand
  split
  · exact .map _ handleDockerContainersList_guarded
  · exact .map _ handleDockerImagesList_guarded
  · exact .map _ (handleDockerImagePull_guarded cmd)
  · exact .map _ (handleDockerImageRemove_guarded cmd)
  · exact .map _ (handleDockerContainerCreate_guarded cmd moby)
  · exact .map _ (handleDockerContainerStart_guarded cmd)
  · exact .map _ (handleDockerContainerStop_guarded cmd)
  · exact .map _ (handleDockerContainerRestart_guarded cmd)
  · exact .map _ (handleDockerContainerRemove_guarded cmd)
  · exact .map _ handleLibvirtDomainsList_guarded
  · exact .map _ handleLibvirtStoragePoolsList_guarded
  · exact .map _ handleLibvirtNetworksList_guarded
  · exact .map _ (handleLibvirtVMCreate_guarded cmd)
  · exact .map _ (handleDomainAction_guarded cmd .create)
  · exact .map _ (handleDomainAction_guarded cmd .shutdown)
  · exact .map _ (handleDomainAction_guarded cmd .reboot)
  · exact .map _ (handleDomainAction_guarded cmd .destroy)
  · exact .map _ (handleLibvirtVMDelete_guarded cmd)
  · exact .map _ (handleLibvirtVMSetAutostart_guarded cmd)
  · exact .map _ (handleLibvirtVMAttachISO_guarded cmd)
  · exact .map _ (handleLibvirtVMDetachISO_guarded cmd)
  · exact .pure trivial

end

/-! ## Iterations of the loop -/

/-- The reply reports an error. -/
def IsErrorReply (p : Packet) : Prop :=
  ∃ reply : CommandReply, p.type = packetNodeCommandReply ∧ p.payload = some reply.marshal ∧
    reply.status = "error"

/-- How a handler of packets ends: it has written one reply, which reports an
error if a call has failed that is not tolerated; or the write has failed, or
it has returned an error before; or it has panicked after a fatal answer. -/
inductive Finished (H : Host interface σ) :
    EStateM.Result Stop (World interface σ Globals) Packet → Prop
  | replied {w reply} (hcalm : Calm Connected Forbidden w)
      (hanswer : (H.answer (.writePacket reply) w.host).1 = .ok ())
      (hreport : Clean w ∨ IsErrorReply reply) :
      Finished H (.ok reply (w.asked H (.writePacket reply) false))
  | unwritten {w reply err} (hcalm : Calm Connected Forbidden w)
      (hanswer : (H.answer (.writePacket reply) w.host).1 = .error err) :
      Finished H (.error (.error err) (w.asked H (.writePacket reply) false))
  | refused {w err} (hcalm : Calm Connected Forbidden w) : Finished H (.error (.error err) w)
  | panicked {w p} (hfatal : ∃ e ∈ w.events, Fatal e) (hodd : ∀ e ∈ w.events, ¬ Odd e) :
      Finished H (.error (.panic p) w)

theorem writeReply_finished {reply : Except String Packet} {w : World interface σ Globals}
    (hcalm : Calm Connected Forbidden w)
    (hreport : ∀ p, reply = .ok p → Clean w ∨ IsErrorReply p) :
    Finished H (writeReply H reply w) := by
  cases reply with
  | error err => exact .refused hcalm
  | ok p =>
    show Finished H ((call H (.writePacket p) >>= fun _ => pure p) w)
    cases hanswer : (H.answer (.writePacket p) w.host).1 with
    | error err =>
      rw [Effect.bind_error (call_error hanswer)]
      exact .unwritten hcalm hanswer
    | ok v =>
      rw [Effect.bind_ok (call_ok hanswer)]
      exact .replied hcalm hanswer (hreport p rfl)

/-- The world after the three samplings. -/
def sampled (H : Host interface σ) (w : World interface σ Globals) : World interface σ Globals :=
  ((w.asked H .virtualMemory true).asked H .percent true).asked H .counts true

/-- The CPU sample in an iteration that starts here. -/
def sampleEvent (H : Host interface σ) (w : World interface σ Globals) : Event interface :=
  ⟨.percent, (H.answer .percent (w.asked H .virtualMemory true).host).1, true⟩

/-- `GetHardwareInfo` panics where there is no CPU sample, and only there. -/
theorem getHardwareInfo_cases (w : World interface σ Globals) :
    (¬ Fatal (sampleEvent H w) ∧ ∃ ram cpu cores,
      getHardwareInfo H w = .ok ⟨some ram, cpu, cores⟩ (sampled H w)) ∨
    (Fatal (sampleEvent H w) ∧
      getHardwareInfo H w = .error (.panic .indexOutOfRange) (sampled H w)) := by
  unfold getHardwareInfo sampleEvent
  rw [valueOr_bind, valueOr_bind, valueOr_bind]
  -- the index of `cpu_usage[0]` depends on this answer alone
  cases hanswer : (H.answer .percent (w.asked H .virtualMemory true).host).1 with
  | error err => exact .inr ⟨trivial, rfl⟩
  | ok samples =>
    cases samples with
    | nil => exact .inr ⟨rfl, rfl⟩
    | cons cpu rest => exact .inl ⟨by simp [Fatal], _, cpu, _, rfl⟩

theorem sampleEvent_mem (H : Host interface σ) (w : World interface σ Globals) :
    sampleEvent H w ∈ (sampled H w).events :=
  List.mem_append_left _ (List.mem_append_right _ (List.mem_singleton_self _))

theorem handleHeartbeat_finished (packet : Packet) {w : World interface σ Globals}
    (hcalm : Calm Connected Forbidden w) (hclean : Clean w) :
    Finished H (handleHeartbeat H packet w) := by
  unfold handleHeartbeat
  have hmemory : Calm Connected Forbidden (w.asked H .virtualMemory true) :=
    hcalm.asked (harmless rfl)
  rcases getHardwareInfo_cases (H := H) w with ⟨hsample, ram, cpu, cores, hrun⟩ | ⟨hsample, hrun⟩
  · have hpercent := hmemory.asked_of (not_or.mpr ⟨hsample, not_odd rfl _⟩)
    have hcalm' : Calm Connected Forbidden (sampled H w) := hpercent.asked (harmless rfl)
    have hclean' : Clean (sampled H w) := by
      refine Clean.asked (Clean.asked (Clean.asked hclean ?_) ?_) ?_
      all_goals exact fun _ _ => rfl
    have hram : (deref (some ram) : Go σ VirtualMemoryStat) (sampled H w) = .ok ram (sampled H w) :=
      rfl
    rw [Effect.bind_ok hrun, Effect.bind_ok hram]
    dsimp only
    cases marshalHeartbeat cpu ram.usedPercent cores ram.total with
    | none =>
      -- NaN has no JSON, and the error of `json.Marshal` is returned
      exact .refused hcalm'
    | some heartbeat => exact writeReply_finished hcalm' fun _ _ => .inl hclean'
  · rw [Effect.bind_error hrun]
    refine .panicked ⟨_, sampleEvent_mem H w, hsample⟩ ?_
    intro e he
    rcases List.mem_append.mp he with he | he
    · rcases List.mem_append.mp he with he | he
      · exact fun hodd => hmemory.events e he (.inr hodd)
      · rw [List.mem_singleton.mp he]
        exact not_odd rfl _
    · rw [List.mem_singleton.mp he]
      exact not_odd rfl _

theorem handleNodeCommand_finished (moby : Moby) (packet : Packet) {w : World interface σ Globals}
    (hcalm : Calm Connected Forbidden w) (hclean : Clean w) :
    Finished H (handleNodeCommand H moby packet w) := by
  unfold handleNodeCommand
  cases commandHandler packet with
  | error reply => exact writeReply_finished hcalm fun _ _ => .inl hclean
  | ok found =>
    obtain ⟨action, cmd⟩ := found
    dsimp only
    rcases (runCommand_guarded (H := H) cmd moby action).run_cases hcalm hclean with
      ⟨output, w', hrun, hcalm', hclean', -⟩ | ⟨err, w', hrun, hcalm'⟩
    · rw [Effect.bind_ok (catchError_ok hrun)]
      exact writeReply_finished hcalm' fun _ _ => .inl hclean'
    · -- a call has failed, so the run is not clean, and the reply says so
      rw [Effect.bind_ok (catchError_error hrun)]
      refine writeReply_finished hcalm' fun p hp => .inr ?_
      rw [writeCommandReply_ok] at hp
      cases hp
      exact ⟨_, rfl, rfl, rfl⟩

/-- How an iteration ends, with what it leaves behind. -/
inductive Leaves (H : Host interface σ) :
    EStateM.Result Stop (World interface σ Globals) Ending → Prop
  | replied {w reply} (hcalm : Calm Connected Forbidden w)
      (hanswer : (H.answer (.writePacket reply) w.host).1 = .ok ())
      (hreport : Clean w ∨ IsErrorReply reply) :
      Leaves H (.ok (.replied reply) (w.asked H (.writePacket reply) false))
  | ignored {w} (hcalm : Calm Connected Forbidden w) (hclean : Clean w) :
      Leaves H (.ok .ignored w)
  | unwritten {w reply err} (hcalm : Calm Connected Forbidden w)
      (hanswer : (H.answer (.writePacket reply) w.host).1 = .error err) :
      Leaves H (.ok (.returned err) (w.asked H (.writePacket reply) false))
  | returned {w err} (hcalm : Calm Connected Forbidden w) : Leaves H (.ok (.returned err) w)
  | panicked {w p} (hfatal : ∃ e ∈ w.events, Fatal e) (hodd : ∀ e ∈ w.events, ¬ Odd e) :
      Leaves H (.error (.panic p) w)

theorem serve_leaves (moby : Moby) (read : Except String Packet) {w : World interface σ Globals}
    (hcalm : Calm Connected Forbidden w) (hclean : Clean w) :
    Leaves H (serve H moby read w) := by
  unfold serve
  cases read with
  | error err => exact .returned hcalm
  | ok packet =>
    dsimp only
    cases packetHandlers packet.type with
    | none => exact .ignored hcalm hclean
    | some handler =>
      dsimp only
      have hfinished : Finished H (runHandler H moby packet handler w) := by
        cases handler with
        | handleHeartbeat => exact handleHeartbeat_finished packet hcalm hclean
        | handleNodeCommand => exact handleNodeCommand_finished moby packet hcalm hclean
      generalize hout : runHandler H moby packet handler w = out at hfinished
      cases hfinished with
      | replied hcalm' hanswer hreport =>
        rw [Effect.bind_ok (catchError_ok hout)]
        exact .replied hcalm' hanswer hreport
      | unwritten hcalm' hanswer =>
        rw [Effect.bind_ok (catchError_error hout)]
        exact .unwritten hcalm' hanswer
      | refused hcalm' =>
        rw [Effect.bind_ok (catchError_error hout)]
        exact .returned hcalm'
      | panicked hfatal hodd =>
        rw [Effect.bind_error (catchError_panic hout)]
        exact .panicked hfatal hodd

/-! ## Runs -/

def Served.Alive (step : Served) : Prop := ∀ p, step.ending ≠ .panicked p

/-- The iteration ends in a logged return, or in an error reply that has been
written. -/
def Served.Reported (step : Served) : Prop :=
  (∃ err, step.ending = .returned err) ∨
  ∃ reply, step.ending = .replied reply ∧ IsErrorReply reply ∧
    ⟨.writePacket reply, .ok (), false⟩ ∈ step.events

/-- What is known of an iteration: it panics after a fatal answer and only
then, drops only the errors that may be dropped, and reports all others. -/
structure Served.Sound (step : Served) : Prop where
  alive : step.Alive ↔ ∀ e ∈ step.events, ¬ Fatal e
  dropped : ∀ e ∈ step.events, e.tolerated = true → e.call.droppable = true
  reported : ∀ e ∈ step.events, step.Alive → e.failed = true → ¬ Dropped e → step.Reported

theorem droppable_of_not_odd {e : Event interface} (h : ¬ Odd e) (htolerated : e.tolerated = true) :
    e.call.droppable = true := by
  by_contra hnot
  exact h (.inl ⟨htolerated, Bool.not_eq_true _ ▸ hnot⟩)

/-- The events of a calm world, and a write. -/
theorem sound_of_write {w : World interface σ Globals} {reply : Packet} {ending : Ending}
    {read : Except String Packet} (hcalm : Calm Connected Forbidden w)
    (halive : ∀ p, ending ≠ .panicked p)
    (hreported : ∀ e ∈ (w.asked H (.writePacket reply) false).events, e.failed = true →
      ¬ Dropped e → (Served.mk read (w.asked H (.writePacket reply) false).events ending).Reported) :
    (Served.mk read (w.asked H (.writePacket reply) false).events ending).Sound where
  alive := by
    refine iff_of_true halive fun e he => ?_
    rcases List.mem_append.mp he with he | he
    · exact fun hfatal => hcalm.events e he (.inl hfatal)
    · rw [List.mem_singleton.mp he]
      exact not_fatal rfl _
  dropped e he htolerated := by
    rcases List.mem_append.mp he with he | he
    · exact droppable_of_not_odd (fun hodd => hcalm.events e he (.inr hodd)) htolerated
    · rw [List.mem_singleton.mp he] at htolerated
      cases htolerated
  reported e he _ := hreported e he

theorem sound_of_calm {w : World interface σ Globals} {ending : Ending}
    {read : Except String Packet} (hcalm : Calm Connected Forbidden w)
    (halive : ∀ p, ending ≠ .panicked p)
    (hreported : ∀ e ∈ w.events, e.failed = true → ¬ Dropped e →
      (Served.mk read w.events ending).Reported) :
    (Served.mk read w.events ending).Sound where
  alive := iff_of_true halive fun e he hfatal => hcalm.events e he (.inl hfatal)
  dropped e he := droppable_of_not_odd fun hodd => hcalm.events e he (.inr hodd)
  reported e he _ := hreported e he

theorem dropped_of_clean {w : World interface σ Globals} (h : Clean w) {e : Event interface}
    (he : e ∈ w.events) (hfailed : e.failed = true) : Dropped e := ⟨hfailed, h e he hfailed⟩

theorem sound_of_panic {w : World interface σ Globals} {p : Panic} {read : Except String Packet}
    (hfatal : ∃ e ∈ w.events, Fatal e) (hodd : ∀ e ∈ w.events, ¬ Odd e) :
    (Served.mk read w.events (.panicked p)).Sound where
  alive := by
    obtain ⟨e, he, hfatal⟩ := hfatal
    exact iff_of_false (fun halive => halive p rfl) fun h => h e he hfatal
  dropped e he := droppable_of_not_odd (hodd e he)
  reported _ _ halive := absurd rfl (halive p)

theorem Leaves.sound {ending : Ending} {w : World interface σ Globals}
    (h : Leaves H (.ok ending w)) (read : Except String Packet) :
    (Served.mk read w.events ending).Sound := by
  cases h with
  | @replied w₁ reply hcalm hanswer hreport =>
    refine sound_of_write hcalm (fun _ h => by cases h) fun e he hfailed hkept => ?_
    have hwritten : (⟨.writePacket reply, (H.answer (.writePacket reply) w₁.host).1, false⟩ :
        Event interface) ∈ (w₁.asked H (.writePacket reply) false).events :=
      List.mem_append_right _ (List.mem_singleton_self _)
    rw [hanswer] at hwritten
    rcases hreport with hclean | herror
    · -- what has failed is neither a tolerated call nor the write
      rcases List.mem_append.mp he with he | he
      · exact absurd (dropped_of_clean hclean he hfailed) hkept
      · rw [List.mem_singleton.mp he, Event.failed, hanswer] at hfailed
        cases hfailed
    · exact .inr ⟨reply, rfl, herror, hwritten⟩
  | ignored hcalm hclean =>
    exact sound_of_calm hcalm (fun _ h => by cases h) fun e he hfailed hkept =>
      absurd (dropped_of_clean hclean he hfailed) hkept
  | unwritten hcalm hanswer =>
    exact sound_of_write hcalm (fun _ h => by cases h) fun _ _ _ _ => .inl ⟨_, rfl⟩
  | returned hcalm =>
    exact sound_of_calm hcalm (fun _ h => by cases h) fun _ _ _ _ => .inl ⟨_, rfl⟩

/-- The loop goes on with the next packet. -/
def Ending.goesOn : Ending → Bool
  | .replied _ | .ignored => true
  | _ => false

/-- An iteration that does not stop in a panic ends the loop by a return. -/
theorem serve_ending {moby : Moby} {read : Except String Packet} {ending : Ending}
    {w w' : World interface σ Globals} (h : serve H moby read w = .ok ending w') :
    (∃ err, ending = .returned err) ∨ ending.goesOn = true := by
  cases read with
  | error err =>
    cases h
    exact .inl ⟨err, rfl⟩
  | ok packet =>
    unfold serve at h
    dsimp only at h
    cases hhandler : packetHandlers packet.type with
    | none =>
      rw [hhandler] at h
      cases h
      exact .inr rfl
    | some handler =>
      rw [hhandler] at h
      obtain ⟨result, w₁, hrun, h⟩ := Effect.bind_eq_ok h
      cases result with
      | error err =>
        cases h
        exact .inl ⟨err, rfl⟩
      | ok reply =>
        cases h
        exact .inr rfl

theorem after_eq_nil {α : Type} {a b : α} {before after : List α}
    (h : [a] = before ++ b :: after) : after = [] := by
  rcases List.append_eq_singleton_iff.mp h.symm with ⟨-, h⟩ | ⟨-, h⟩
  · exact (List.cons.inj h).2
  · cases h

/-- An iteration that ends the loop is the last. -/
theorem packetLoop_last (moby : Moby) (reads : List (Except String Packet))
    (w : World interface σ Globals) {before after : List Served} {step : Served}
    (hserved : packetLoop H moby w reads = before ++ step :: after)
    (hends : step.ending.goesOn = false) : after = [] := by
  induction reads generalizing w before with
  | nil => simp [packetLoop] at hserved
  | cons read reads ih =>
    rw [packetLoop] at hserved
    cases hserve : serve H moby read { w with events := [] } with
    | error stop w' =>
      rw [hserve] at hserved
      cases stop <;> exact after_eq_nil hserved
    | ok ending w' =>
      rw [hserve] at hserved
      rcases serve_ending hserve with ⟨err, rfl⟩ | hgoes
      · exact after_eq_nil hserved
      · have hrest : Served.mk read w'.events ending :: packetLoop H moby w' reads =
            before ++ step :: after := by
          cases ending <;> first | exact hserved | cases hgoes
        cases before with
        | nil =>
          cases hrest
          cases hgoes.symm.trans hends
        | cons first before => exact ih w' (List.cons.inj hrest).2

/-- Every iteration is sound. -/
theorem packetLoop_sound (moby : Moby) (reads : List (Except String Packet))
    (w : World interface σ Globals) (hconn : Connected w.globals) :
    ∀ step ∈ packetLoop H moby w reads, step.Sound := by
  -- each iteration starts without calls; what it keeps is the connection
  induction reads generalizing w with
  | nil => exact fun step hstep => absurd hstep List.not_mem_nil
  | cons read reads ih =>
    have hleaves := serve_leaves (H := H) moby read (.fresh (s := w.host) hconn) .fresh
    intro step hstep
    rw [packetLoop] at hstep
    generalize hserve : serve H moby read { w with events := [] } = out at hleaves hstep
    have hsound := hleaves
    cases hleaves with
    | panicked hfatal hodd =>
      obtain rfl := List.mem_singleton.mp hstep
      exact sound_of_panic hfatal hodd
    | @replied w' reply hcalm hanswer hreport =>
      rcases List.mem_cons.mp hstep with rfl | hstep
      · exact hsound.sound read
      · exact ih (w'.asked H (.writePacket reply) false) hcalm.globals step hstep
    | ignored hcalm hclean =>
      rcases List.mem_cons.mp hstep with rfl | hstep
      · exact hsound.sound read
      · exact ih _ hcalm.globals step hstep
    | unwritten hcalm hanswer =>
      obtain rfl := List.mem_singleton.mp hstep
      exact hsound.sound read
    | returned hcalm =>
      obtain rfl := List.mem_singleton.mp hstep
      exact hsound.sound read

/-- The address of a master that `net.Dial` accepts: `host:port`. -/
structure DialAddress where
  text : String
  colon : ':' ∈ text.toList

/-- The index of `SetupFirewall` is in range. -/
theorem split_dialAddress (master : DialAddress) :
    ∃ part, (split ':' master.text)[1]? = some part := by
  obtain ⟨host, rest, htext, hhost⟩ := List.eq_append_cons_of_mem master.colon
  rw [split, htext, List.splitOn_append_cons_self_of_not_mem hhost]
  obtain ⟨port, ports, hsplit⟩ := List.exists_cons_of_ne_nil (List.splitOn_ne_nil ':' rest)
  rw [hsplit]
  exact ⟨String.ofList port, rfl⟩

theorem setupFirewall_guarded (master : DialAddress) :
    Guarded (fun g : Globals => g.conn = none) Forbidden (setupFirewall H master.text) Any := by
  obtain ⟨part, hpart⟩ := split_dialAddress master
  exact .callThen (harmless rfl) fun nft => .index hpart (.call (harmless rfl))

/-- The world after a connection has been made. -/
def connectedTo (H : Host interface σ) (w : World interface σ Globals) (qemu : Ref .connect) :
    World interface σ Globals :=
  { w.asked H .newConnect false with globals := { w.globals with conn := some qemu } }

/-- Printing the networks panics where there is no connection to libvirt, and
only there. -/
theorem printNetworks_cases {w : World interface σ Globals} (hconn : w.globals.conn = none) :
    (∃ qemu, (H.answer .newConnect w.host).1 = .ok qemu ∧
      printNetworks H w = .ok () ((connectedTo H w qemu).asked H (.listNetworks qemu) true)) ∨
    (∃ err, (H.answer .newConnect w.host).1 = .error err ∧
      printNetworks H w = .error (.panic .nilDereference) (w.asked H .newConnect false)) := by
  unfold printNetworks
  cases hanswer : (H.answer .newConnect w.host).1 with
  | error err =>
    have hrun : getQEMU H w = .error (.error err) (w.asked H .newConnect false) := by
      rw [getQEMU, Effect.get_bind, hconn]
      exact Effect.bind_error (call_error hanswer)
    rw [Effect.bind_ok (catchError_error hrun)]
    exact .inr ⟨err, rfl, rfl⟩
  | ok qemu =>
    have hrun : getQEMU H w = .ok (some qemu) (connectedTo H w qemu) := by
      rw [getQEMU, Effect.get_bind, hconn]
      exact Effect.bind_ok (call_ok hanswer)
    rw [Effect.bind_ok (catchError_ok hrun)]
    exact .inl ⟨qemu, rfl, valueOr_bind H _ _ _ _⟩

/-- What `Connect` leaves behind before its loop. -/
def SetupLeaves : EStateM.Result Stop (World interface σ Globals) (Except String Unit) → Prop
  | .ok firewall w => Calm Connected Forbidden w ∧ (Clean w ∨ firewall ≠ .ok ())
  | .error (.error _) _ => False
  | .error (.panic _) w => (∃ e ∈ w.events, Fatal e) ∧ ∀ e ∈ w.events, ¬ Odd e

/-- From the firewall on, whose error is kept. -/
theorem setupLeaves_of_firewall {master : String} {w w' : World interface σ Globals}
    {firewall : Except String Unit}
    (hrun : catchError (setupFirewall H master) w = .ok firewall w')
    (hcalm : Calm (fun g : Globals => g.conn = none) Forbidden w')
    (hclean : Clean w' ∨ firewall ≠ .ok ()) : SetupLeaves (setup H master w) := by
  rw [setup, Effect.bind_ok hrun]
  rcases printNetworks_cases (H := H) hcalm.globals with ⟨qemu, hanswer, hprint⟩ |
    ⟨err, hanswer, hprint⟩
  · rw [Effect.bind_ok hprint]
    have hconnect : ¬ Forbidden ⟨.newConnect, (H.answer .newConnect w'.host).1, false⟩ := by
      rw [hanswer]
      exact not_or.mpr ⟨id, not_odd rfl _⟩
    have hconnected : Calm Connected Forbidden (connectedTo H w' qemu) :=
      ⟨rfl, (hcalm.asked_of hconnect).events⟩
    refine ⟨hconnected.asked (harmless rfl), hclean.imp_left fun hclean => ?_⟩
    have hclean' : Clean (w'.asked H .newConnect false) := by
      refine hclean.asked fun err herr => ?_
      rw [hanswer] at herr
      cases herr
    exact Clean.asked (w := connectedTo H w' qemu) hclean' fun _ _ => rfl
  · -- the failed `NewConnect` is the last call of the run
    rw [Effect.bind_error hprint]
    refine ⟨⟨_, List.mem_append_right _ (List.mem_singleton_self _), ?_⟩, fun e he => ?_⟩
    · rw [hanswer]
      trivial
    · rcases List.mem_append.mp he with he | he
      · exact fun hodd => hcalm.events e he (.inr hodd)
      · rw [List.mem_singleton.mp he]
        exact not_odd rfl _

theorem setup_leaves (master : DialAddress) (s : σ) :
    SetupLeaves (setup H master.text { host := s, globals := {} }) := by
  rcases (setupFirewall_guarded (H := H) master).run_cases (.fresh (s := s) (g := {}) rfl)
      .fresh with
    ⟨_, w', hrun, hcalm, hclean, -⟩ | ⟨err, w', hrun, hcalm⟩
  · exact setupLeaves_of_firewall (catchError_ok hrun) hcalm (.inl hclean)
  · exact setupLeaves_of_firewall (catchError_error hrun) hcalm (.inr nofun)

/-! ## The slave -/

/-- All calls of a run. -/
def ConnectRun.events (r : ConnectRun) : List (Event interface) :=
  r.setup ++ r.served.flatMap Served.events

/-- No panic, before the loop or in it. -/
structure ConnectRun.Alive (r : ConnectRun) : Prop where
  setup : r.panic = none
  served : ∀ step ∈ r.served, step.Alive

/-- No panic, and every failed call has its failure reported: before the loop
by the error of the firewall, which is logged, and in the loop by the
iteration it is made in. A return ends the loop. -/
structure ConnectRun.Survived (r : ConnectRun) : Prop where
  alive : r.Alive
  logged : ∀ e ∈ r.setup, e.failed = true → ∃ err, r.firewall = .error err
  reported : ∀ step ∈ r.served, ∀ e ∈ step.events, e.failed = true → step.Reported
  returns : ∀ before step after, r.served = before ++ step :: after →
    (∃ err, step.ending = .returned err) → after = []

theorem connect_returns (H : Host interface σ) (moby : Moby) (s : σ) (master : String)
    (reads : List (Except String Packet)) (before : List Served) (step : Served)
    (after : List Served)
    (hserved : (connect H moby s master reads).served = before ++ step :: after)
    (hreturned : ∃ err, step.ending = .returned err) : after = [] := by
  obtain ⟨err, hreturned⟩ := hreturned
  have hnone : ([] : List Served) ≠ before ++ step :: after := by simp
  unfold connect at hserved
  cases hrun : setup H master { host := s, globals := {} } with
  | error stop w =>
    rw [hrun] at hserved
    cases stop <;> exact absurd hserved hnone
  | ok firewall w =>
    rw [hrun] at hserved
    exact packetLoop_last moby reads w hserved (by rw [hreturned]; rfl)

/-- The calls before the loop, and whether they end it. -/
structure ConnectRun.SoundSetup (r : ConnectRun) : Prop where
  alive : r.panic = none ↔ ∀ e ∈ r.setup, ¬ Fatal e
  dropped : ∀ e ∈ r.setup, e.tolerated = true → e.call.droppable = true
  logged : ∀ e ∈ r.setup, r.panic = none → e.failed = true → ¬ Dropped e →
    ∃ err, r.firewall = .error err

theorem connect_sound (H : Host interface σ) (moby : Moby) (s : σ) (master : DialAddress)
    (reads : List (Except String Packet)) :
    (connect H moby s master.text reads).SoundSetup ∧
      ∀ step ∈ (connect H moby s master.text reads).served, step.Sound := by
  have hsetup := setup_leaves (H := H) master s
  unfold connect
  cases hrun : setup H master.text { host := s, globals := {} } with
  | error stop w =>
    rw [hrun] at hsetup
    cases stop with
    | error err => exact hsetup.elim
    | panic p =>
      -- before the loop, by `NewConnect`
      obtain ⟨⟨e, he, hfatal⟩, hodd⟩ := hsetup
      refine ⟨⟨iff_of_false nofun fun h => h e he hfatal, fun e he => ?_, fun _ _ => nofun⟩,
        fun step hstep => absurd hstep List.not_mem_nil⟩
      exact droppable_of_not_odd (hodd e he)
  | ok firewall w =>
    rw [hrun] at hsetup
    obtain ⟨hcalm, hreported⟩ := hsetup
    refine ⟨⟨iff_of_true rfl fun e he hfatal => hcalm.events e he (.inl hfatal), fun e he => ?_,
      fun e he _ hfailed hkept => ?_⟩, packetLoop_sound moby reads w hcalm.globals⟩
    · exact droppable_of_not_odd fun hodd => hcalm.events e he (.inr hodd)
    · cases firewall with
      | error err => exact ⟨err, rfl⟩
      | ok _ =>
        have hclean := hreported.resolve_right fun hne => hne rfl
        exact absurd (dropped_of_clean hclean he hfailed) hkept

/-- The slave does not panic in a run exactly if `NewConnect` does not fail in
it and `cpu.Percent` never comes without a sample. If moreover no call fails
whose error the source drops, it survives the run. Such calls are those of
`Call.droppable`. -/
theorem slave_survives (H : Host interface σ) (moby : Moby) (s : σ) (master : DialAddress)
    (reads : List (Except String Packet)) :
    ((connect H moby s master.text reads).Alive ↔
      ∀ e ∈ (connect H moby s master.text reads).events, ¬ Fatal e) ∧
    ((∀ e ∈ (connect H moby s master.text reads).events, ¬ Fatal e ∧ ¬ Dropped e) →
      (connect H moby s master.text reads).Survived) ∧
    ∀ e ∈ (connect H moby s master.text reads).events, Dropped e → e.call.droppable = true := by
  obtain ⟨hsetup, hserved⟩ := connect_sound H moby s master reads
  have halive : (connect H moby s master.text reads).Alive ↔
      ∀ e ∈ (connect H moby s master.text reads).events, ¬ Fatal e := by
    constructor
    · intro h e he
      rcases List.mem_append.mp he with he | he
      · exact hsetup.alive.mp h.setup e he
      · obtain ⟨step, hstep, he⟩ := List.mem_flatMap.mp he
        exact (hserved step hstep).alive.mp (h.served step hstep) e he
    · intro h
      refine ⟨hsetup.alive.mpr fun e he => h e (List.mem_append_left _ he), fun step hstep => ?_⟩
      refine (hserved step hstep).alive.mpr fun e he => h e (List.mem_append_right _ ?_)
      exact List.mem_flatMap.mpr ⟨step, hstep, he⟩
  refine ⟨halive, fun h => ?_, fun e he hdropped => ?_⟩
  · have halive' := halive.mpr fun e he => (h e he).1
    refine ⟨halive', fun e he hfailed => ?_, fun step hstep e he hfailed => ?_, ?_⟩
    · exact hsetup.logged e he halive'.setup hfailed (h e (List.mem_append_left _ he)).2
    · refine (hserved step hstep).reported e he (halive'.served step hstep) hfailed (h e ?_).2
      exact List.mem_append_right _ (List.mem_flatMap.mpr ⟨step, hstep, he⟩)
    · exact connect_returns H moby s master.text reads
  · rcases List.mem_append.mp he with he | he
    · exact hsetup.dropped e he hdropped.2
    · obtain ⟨step, hstep, he⟩ := List.mem_flatMap.mp he
      exact (hserved step hstep).dropped e he hdropped.2

/-- A host on which the firewall works and little else; libvirt may be
there. -/
def demoHost (libvirt : Bool) : Host interface Unit where
  answer c s := (match c with
    | .nftablesNew => .ok ⟨"nft"⟩
    | .flush _ _ => .ok ()
    | .newConnect => if libvirt then .ok ⟨"qemu:///system"⟩ else .error "Failed to connect socket"
    | _ => .error "unavailable", s)

/-- A host without docker whose memory cannot be read. -/
def sampleHost : Host interface Unit where
  answer c s := (match c with
    | .nftablesNew => .ok ⟨"nft"⟩
    | .flush _ _ => .ok ()
    | .newConnect => .ok ⟨"qemu:///system"⟩
    | .listNetworks _ => .ok []
    | .percent => .ok [⟨some (.num 7 0)⟩]
    | .counts => .ok (4 : Int)
    | .writePacket _ => .ok ()
    | _ => .error "unavailable", s)

def demoMoby : Moby where
  parsePort s := some s
  validateRestartPolicy _ := none

def heartbeatPacket : Packet := { type := packetHeartbeat, id := "h1" }

/-- The reply without the memory. -/
def sampleReply : Packet where
  type := packetHeartbeatReply
  replyTo := "h1"
  payload := some (.obj [("usage", .obj [("cpu_percent", .num 7 0), ("ram_percent", .num 0 0)]),
    ("hardware", .obj [("cpu_cores", .num 4 0), ("ram_bytes", .num 0 0)])])

def sampleServed : Served where
  read := .ok heartbeatPacket
  events := [⟨.virtualMemory, .error "unavailable", true⟩,
    ⟨.percent, .ok [⟨some (.num 7 0)⟩], true⟩,
    ⟨.counts, .ok (4 : Int), true⟩, ⟨.writePacket sampleReply, .ok (), false⟩]
  ending := .replied sampleReply

theorem sampleHost_served :
    (connect sampleHost demoMoby () "10.0.0.1:49149" [.ok heartbeatPacket]).served =
      [sampleServed] := rfl

/-- Without libvirt `Connect` uses a nil connection; with it, a heartbeat for
which the CPU cannot be sampled indexes an empty slice; and one for which the
memory cannot be read is answered as if there were none. -/
theorem slave_crashes :
    ((connect (demoHost false) demoMoby () "10.0.0.1:49149" []).panic = some .nilDereference ∧
      ¬ (connect (demoHost false) demoMoby () "10.0.0.1:49149" []).Survived) ∧
    ((connect (demoHost true) demoMoby () "10.0.0.1:49149"
        [.ok heartbeatPacket]).served.map Served.ending = [.panicked .indexOutOfRange] ∧
      ¬ (connect (demoHost true) demoMoby () "10.0.0.1:49149" [.ok heartbeatPacket]).Survived) ∧
    ((connect sampleHost demoMoby () "10.0.0.1:49149" [.ok heartbeatPacket]).served =
        [sampleServed] ∧
      ¬ (connect sampleHost demoMoby () "10.0.0.1:49149" [.ok heartbeatPacket]).Survived) := by
  refine ⟨⟨rfl, fun h => nomatch h.alive.setup⟩, ⟨rfl, fun h => ?_⟩, sampleHost_served, fun h => ?_⟩
  · exact h.alive.served _ (List.mem_cons_self ..) .indexOutOfRange rfl
  · -- `VirtualMemory` has failed, and the reply is that of a heartbeat
    have hmem : sampleServed ∈
        (connect sampleHost demoMoby () "10.0.0.1:49149" [.ok heartbeatPacket]).served :=
      sampleHost_served ▸ List.mem_singleton_self _
    rcases h.reported sampleServed hmem _ (.head _) rfl with
      ⟨err, hreturned⟩ | ⟨reply, hreply, ⟨_, htype, -⟩, -⟩
    · cases hreturned
    · cases hreply
      exact absurd htype (by decide)

def imagesPacket : Packet where
  type := packetNodeCommand
  id := "c1"
  payload := some (.obj [("action", .str "docker.images.list")])

def imagesReply : Packet where
  type := packetNodeCommandReply
  replyTo := "c1"
  payload := some (handlerReply (.error "unavailable")).marshal

def imagesServed : Served where
  read := .ok imagesPacket
  events := [⟨.newClient, .error "unavailable", false⟩, ⟨.writePacket imagesReply, .ok (), false⟩]
  ending := .replied imagesReply

theorem sampleHost_images :
    (connect sampleHost demoMoby () "10.0.0.1:49149" [.ok imagesPacket]).events =
      [⟨.nftablesNew, .ok ⟨"nft"⟩, false⟩,
        ⟨.flush ⟨"nft"⟩ (commands (to4 (parseIP "49149"))), .ok (), false⟩,
        ⟨.newConnect, .ok ⟨"qemu:///system"⟩, false⟩,
        ⟨.listNetworks ⟨"qemu:///system"⟩, .ok [], true⟩] ++ imagesServed.events := rfl

/-- A command for docker, which is not there: the failure is reported, and the
slave has survived. -/
theorem slave_survives_docker :
    (connect sampleHost demoMoby () "10.0.0.1:49149" [.ok imagesPacket]).Survived := by
  refine (slave_survives sampleHost demoMoby () ⟨"10.0.0.1:49149", by decide⟩
    [.ok imagesPacket]).2.1 ?_
  intro e he
  rw [sampleHost_images] at he
  simp only [imagesServed, List.cons_append, List.nil_append, List.mem_cons, List.not_mem_nil,
    or_false] at he
  rcases he with rfl | rfl | rfl | rfl | rfl | rfl
  all_goals exact ⟨id, by simp [Dropped, Event.failed]⟩

end Centralisd.Slave.Process
