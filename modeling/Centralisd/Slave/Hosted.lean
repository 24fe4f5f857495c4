import Centralisd.Slave.Simulation

/-!
# Centralisd — runs of the process on a hypervisor

`Slave/Disks` has the runs of a hypervisor: node commands with the failures
of their calls, and guests that power off. Here a run of `Connect` on a host
whose libvirt is a hypervisor is shown to be one of these
(`connect_refines`): the commands are those of the packets handled, in their
order, and what else the process calls (nftables, docker, the hardware, the
connection) does nothing to the domains and the volumes.

So what every run of the hypervisor keeps is kept by the process: whatever
its master sends, the machines on its host do not share disks.
-/

namespace Centralisd.Slave.Process

open Runtime

/-! ## Runs of the hypervisor -/

/-- The command that is run for what was read. -/
def commandOf : Except String Packet → Option NodeCommand
  | .error _ => none
  | .ok packet => match packetHandlers packet.type with
    | some .handleNodeCommand => (commandHandler packet).toOption.map Prod.snd
    | _ => none

theorem commandHandler_action {packet : Packet} {action : String} {cmd : NodeCommand}
    (h : commandHandler packet = .ok (action, cmd)) : action = trimSpace cmd.action := by
  unfold commandHandler at h
  split at h
  · cases h
  · split at h
    · cases h
      rfl
    · cases h

theorem commandOf_ok {packet : Packet} {action : String} {cmd : NodeCommand}
    (hhandler : packetHandlers packet.type = some .handleNodeCommand)
    (hcmd : commandHandler packet = .ok (action, cmd)) : commandOf (.ok packet) = some cmd := by
  simp only [commandOf, hhandler, hcmd]
  rfl

theorem exists_packet {read : Except String Packet} {cmd : NodeCommand}
    (h : commandOf read = some cmd) : ∃ packet, read = .ok packet ∧
      packetHandlers packet.type = some .handleNodeCommand ∧
      commandHandler packet = .ok (trimSpace cmd.action, cmd) := by
  unfold commandOf at h
  split at h
  · cases h
  · next packet =>
    split at h
    · next hhandler =>
      cases hcmd : commandHandler packet with
      | error reply =>
        rw [hcmd] at h
        cases h
      | ok found =>
        rw [hcmd] at h
        cases h
        refine ⟨packet, rfl, hhandler, ?_⟩
        rw [← commandHandler_action hcmd]
        exact hcmd
    · cases h

/-- The command of an event. -/
def hostCommand : HostEvent → Option NodeCommand
  | .command cmd _ => some cmd
  | .powerOff _ => none

/-- The hypervisor has run these commands. -/
def Does (commands : List NodeCommand) (h h' : Hypervisor) : Prop :=
  ∃ events : List HostEvent, (∀ e ∈ events, e.PlainPath) ∧
    events.filterMap hostCommand = commands ∧ Machine.run hostStep h events = some h'

section
variable {h h' h'' : Hypervisor} {commands commands' : List NodeCommand} {cmd : NodeCommand}

theorem Does.refl (h : Hypervisor) : Does [] h h :=
  ⟨[], fun _ he => absurd he List.not_mem_nil, rfl, rfl⟩

theorem Does.trans (hdoes : Does commands h h') (hdoes' : Does commands' h' h'') :
    Does (commands ++ commands') h h'' := by
  obtain ⟨events, hplain, rfl, hrun⟩ := hdoes
  obtain ⟨events', hplain', rfl, hrun'⟩ := hdoes'
  refine ⟨events ++ events', ?_, List.filterMap_append, ?_⟩
  · intro e he
    exact (List.mem_append.mp he).elim (hplain e) (hplain' e)
  · rw [Machine.run_append, hrun]
    exact hrun'

theorem Does.powerOff (hoff : PoweredOff h h') : Does [] h h' := by
  obtain ⟨names, hrun⟩ := hoff
  refine ⟨names.map .powerOff, ?_, ?_, hrun⟩
  · intro e he
    obtain ⟨name, -, rfl⟩ := List.mem_map.mp he
    trivial
  · rw [List.filterMap_map]
    exact List.filterMap_eq_nil_iff.mpr fun _ _ => rfl

/-- A command of the hypervisor's. -/
theorem Does.command {handler : LibvirtAnswers → NodeCommand → Libvirt Json}
    (hhandler : libvirtHandler (trimSpace cmd.action) = some handler)
    (a : (k : Choice) → k.Val) (h : Hypervisor) :
    Does [cmd] h (Effect.stateOf (handler (answers a) cmd h)) := by
  refine ⟨[.command cmd (answers a)], ?_, rfl, ?_⟩
  · intro e he
    rw [List.mem_singleton.mp he]
    exact (a .path).2
  · rw [Machine.run_cons, hostStep, hhandler]
    rfl

/-- A command that is not libvirt's. -/
theorem Does.other (hother : libvirtHandler (trimSpace cmd.action) = none) (h : Hypervisor) :
    Does [cmd] h h := by
  refine ⟨[.command cmd (answers (failing none))], ?_, rfl, ?_⟩
  · intro e he
    rw [List.mem_singleton.mp he]
    exact rootPath.2
  · rw [Machine.run_cons, hostStep, hother]
    rfl

end

/-! ## Calls that leave the hypervisor alone -/

/-- The calls that do nothing to it but let guests power off. -/
def Call.harmless (c : Call) : Prop := c.quiet = true ∨ ∃ p, c = .writePacket p

theorem Call.harmless_of_changes {c : Call} (h : c.changes = false) : c.harmless := by
  cases c with
  | writePacket p => exact .inr ⟨p, rfl⟩
  | domainOp _ _ => cases h
  | storageVolCreateXML _ _ => cases h
  | domainDefineXML _ _ => cases h
  | delete _ => cases h
  | _ => exact .inl rfl

/-- Docker's commands ask for nothing of libvirt. -/
theorem Asked.harmless {moby : Moby} {cmd : NodeCommand} {before : List (Event interface)}
    {action : String} {c : Call} (hasked : Asked moby cmd before action c)
    (hother : libvirtHandler action = none) : c.harmless := by
  cases hasked with
  | domainAction haction _ _ =>
    simp only [domainActions, List.mem_cons, Prod.mk.injEq, List.not_mem_nil, or_false] at haction
    rcases haction with ⟨rfl, -⟩ | ⟨rfl, -⟩ | ⟨rfl, -⟩ | ⟨rfl, -⟩ <;> cases hother
  | imagePull _ => exact .inl rfl
  | imageRemove _ => exact .inl rfl
  | containerCreate _ _ => exact .inl rfl
  | containerStartCreated _ _ _ => exact .inl rfl
  | containerStart _ => exact .inl rfl
  | containerStop _ => exact .inl rfl
  | containerRestart _ => exact .inl rfl
  | containerRemove _ => exact .inl rfl
  | _ => cases hother

/-- Nothing is done for what was read that libvirt would notice. -/
def Spared (read : Except String Packet) : Prop :=
  ∀ cmd, commandOf read = some cmd → libvirtHandler (trimSpace cmd.action) = none

theorem ReadRule.harmless {moby : Moby} {read : Except String Packet}
    {before : List (Event interface)} {e : Event interface} (hrule : ReadRule moby read before e)
    (hspared : Spared read) : e.call.harmless := by
  cases hchanges : e.call.changes with
  | false => exact Call.harmless_of_changes hchanges
  | true =>
    obtain ⟨packet, action, cmd, rfl, hhandler, hcmd, hasked⟩ := hrule hchanges
    refine hasked.harmless ?_
    rw [commandHandler_action hcmd]
    exact hspared cmd (commandOf_ok hhandler hcmd)

section
variable {σ : Type} {H : Host interface σ} {view : σ → Hypervisor} (hH : OnHypervisor H view)
include hH

theorem OnHypervisor.does_of_harmless {c : Call} (hc : c.harmless) (s : σ) :
    Does [] (view s) (view (H.answer c s).2) := by
  rcases hc with hquiet | ⟨p, rfl⟩
  · rw [hH.quiet hquiet s]
    exact .refl _
  · cases hanswer : (H.answer (.writePacket p) s).1 with
    | error err =>
      rw [hH.failed _ s err hanswer]
      exact .refl _
    | ok u => exact .powerOff (hH.done _ s u hanswer)

/-- Calls that are harmless let guests power off, and that is all. -/
theorem OnHypervisor.trace {s s' : σ} {events : List (Event interface)}
    (htrace : Trace H s events s') (hharmless : ∀ e ∈ events, e.call.harmless) :
    Does [] (view s) (view s') :=
  htrace.invariant (fun t => Does [] (view s) (view t)) Call.harmless hharmless
    (fun _ t hc hdoes => hdoes.trans (hH.does_of_harmless hc t)) (.refl _)

/-- A program whose calls are harmless. -/
theorem OnHypervisor.confined {α : Type} {m : Go σ α} {Q : α → List (Event interface) → Prop}
    {rule : List (Event interface) → Event interface → Prop} (hm : Confined H rule [] m Q)
    (hrule : ∀ before e, rule before e → e.call.harmless) (w : World interface σ Globals)
    (hw : w.events = []) : Does [] (view w.host) (view (Effect.stateOf (m w)).host) := by
  have heach : Each rule w.events := hw ▸ .nil
  have hends : Each rule (Effect.stateOf (m w)).events ∧ Extends H w (Effect.stateOf (m w)) := by
    have hrun := hm.run w heach (List.nil_subset _)
    cases hmw : m w with
    | ok x w' =>
      rw [hmw] at hrun
      exact ⟨hrun.1, hrun.2.1⟩
    | error stop w' =>
      rw [hmw] at hrun
      exact hrun
  -- every event of the run is an allowed one after those before it
  obtain ⟨hall, new, hnew, htrace⟩ := hends
  rw [hw, List.nil_append] at hnew
  refine hH.trace htrace fun e he => ?_
  rw [← hnew] at he
  obtain ⟨before, after, hsplit⟩ := List.append_of_mem he
  exact hrule before e (hall before e after hsplit)

/-! ## Iterations of the loop -/

theorem writeReply_does (reply : Except String Packet) (w : World interface σ Globals) :
    Does [] (view w.host) (view (Effect.stateOf (writeReply H reply w)).host) := by
  cases reply with
  | error err => exact .refl _
  | ok p =>
    have hwrite := hH.does_of_harmless (c := .writePacket p) (.inr ⟨p, rfl⟩) w.host
    have heq : writeReply H (.ok p) = (call H (.writePacket p) >>= fun _ => pure p) := rfl
    rw [heq]
    cases hanswer : (H.answer (.writePacket p) w.host).1 with
    | error err =>
      rw [Effect.bind_error (call_error hanswer)]
      exact hwrite
    | ok u =>
      rw [Effect.bind_ok (call_ok hanswer)]
      exact hwrite

/-- A command of libvirt's is run once, and then the reply is written. -/
theorem handleNodeCommand_does {moby : Moby} {packet : Packet} {action : String}
    {cmd : NodeCommand} {handler : LibvirtAnswers → NodeCommand → Libvirt Json}
    (hcmd : commandHandler packet = .ok (action, cmd))
    (hhandler : libvirtHandler action = some handler) (w : World interface σ Globals) :
    Does [cmd] (view w.host)
      (view (Effect.stateOf (handleNodeCommand H moby packet w)).host) := by
  have haction := commandHandler_action hcmd
  have hrefines : Refines view Set.univ (runCommand H moby action cmd)
      (fun a => handler (answers a) cmd) (fun _ _ => True) := runCommand_refines hH moby hhandler
  obtain ⟨a, -, hmatch, -⟩ := hrefines.run w (failing none)
  have hdoes := Does.command (haction ▸ hhandler) a (view w.host)
  have heq : handleNodeCommand H moby packet = (catchError (runCommand H moby action cmd) >>=
      fun output => writeReply H (writeCommandReply packet.id (handlerReply output))) := by
    unfold handleNodeCommand
    rw [hcmd]
  rw [heq]
  rcases hmatch.cases with ⟨x, y, w', hrun, hstate, -⟩ | ⟨msg, err, w', hrun, hstate⟩
  · rw [hstate] at hdoes
    rw [Effect.bind_ok (catchError_ok hrun)]
    exact hdoes.trans (writeReply_does hH _ w')
  · rw [hstate] at hdoes
    rw [Effect.bind_ok (catchError_error hrun)]
    exact hdoes.trans (writeReply_does hH _ w')

omit hH in
/-- What an iteration does to the host is done by the handler. -/
theorem serve_host {moby : Moby} {packet : Packet} {handler : PacketHandler}
    (hhandler : packetHandlers packet.type = some handler) (w : World interface σ Globals) :
    (Effect.stateOf (serve H moby (.ok packet) w)).host =
      (Effect.stateOf (runHandler H moby packet handler w)).host := by
  cases hrun : runHandler H moby packet handler w with
  | ok reply w' =>
    have hserve : serve H moby (.ok packet) w = .ok (.replied reply) w' := by
      unfold serve
      simp only [hhandler]
      exact Effect.bind_ok (catchError_ok hrun)
    rw [hserve]
    rfl
  | error stop w' =>
    cases stop with
    | error err =>
      have hserve : serve H moby (.ok packet) w = .ok (.returned err) w' := by
        unfold serve
        simp only [hhandler]
        exact Effect.bind_ok (catchError_error hrun)
      rw [hserve]
      rfl
    | panic p =>
      have hserve : serve H moby (.ok packet) w = .error (.panic p) w' := by
        unfold serve
        simp only [hhandler]
        exact Effect.bind_error (catchError_panic hrun)
      rw [hserve]
      rfl

/-- An iteration runs the command that was read, on the hypervisor. -/
theorem serve_does (moby : Moby) (read : Except String Packet) (w : World interface σ Globals)
    (hw : w.events = []) :
    Does (commandOf read).toList (view w.host)
      (view (Effect.stateOf (serve H moby read w)).host) := by
  by_cases hspared : Spared read
  · -- then all its calls are harmless, and the command is no step
    have hconfined : Confined H (ReadRule moby read) [] (serve H moby read) Bare :=
      serve_confined read
    have hcalls := hH.confined hconfined (fun _ _ hrule => hrule.harmless hspared) w hw
    cases hcommand : commandOf read with
    | none => exact hcalls
    | some cmd => exact (Does.other (hspared cmd hcommand) _).trans hcalls
  · -- a command of libvirt's: its handler, and then the reply
    unfold Spared at hspared
    push Not at hspared
    obtain ⟨cmd, hcommand, hlibvirt⟩ := hspared
    obtain ⟨handler, hhandler⟩ := Option.ne_none_iff_exists'.mp hlibvirt
    obtain ⟨packet, rfl, hpacket, hcmd⟩ := exists_packet hcommand
    rw [hcommand, serve_host hpacket]
    exact handleNodeCommand_does hH hcmd hhandler w

end

/-! ## Runs of `Connect` -/

section
variable {σ : Type} (H : Host interface σ)

/-- The host after the loop. -/
def loopHost (moby : Moby) (w : World interface σ Globals) : List (Except String Packet) → σ
  | [] => w.host
  | read :: reads => match serve H moby read { w with events := [] } with
    | .error _ w' => w'.host
    | .ok (.returned _) w' => w'.host
    | .ok _ w' => loopHost moby w' reads

/-- The host after a run. -/
def connectHost (moby : Moby) (s : σ) (master : String) (reads : List (Except String Packet)) :
    σ :=
  match setup H master { host := s, globals := {} } with
  | .ok _ w => loopHost H moby w reads
  | .error _ w => w.host

/-- The commands of the packets that were handled. -/
def commandsOf (served : List Served) : List NodeCommand :=
  served.filterMap fun step => commandOf step.read

end

section
variable {σ : Type} {H : Host interface σ} {view : σ → Hypervisor} (hH : OnHypervisor H view)
include hH

theorem packetLoop_does (moby : Moby) (reads : List (Except String Packet))
    (w : World interface σ Globals) :
    Does (commandsOf (packetLoop H moby w reads)) (view w.host)
      (view (loopHost H moby w reads)) := by
  induction reads generalizing w with
  | nil => exact .refl _
  | cons read reads ih =>
    have hserve := serve_does hH moby read { w with events := [] } rfl
    have hcons : ∀ (step : Served) (rest : List Served), step.read = read →
        commandsOf (step :: rest) = (commandOf read).toList ++ commandsOf rest := by
      rintro step rest rfl
      rw [commandsOf, List.filterMap_cons]
      cases commandOf step.read <;> rfl
    have hlast : ∀ (w' : World interface σ Globals) (ending : Ending),
        Does (commandOf read).toList (view w.host) (view w'.host) →
        Does (commandsOf [⟨read, w'.events, ending⟩]) (view w.host) (view w'.host) := by
      intro w' ending hdoes
      rw [hcons _ _ rfl]
      exact hdoes.trans (.refl _)
    have hnext : ∀ (w' : World interface σ Globals) (ending : Ending),
        Does (commandOf read).toList (view w.host) (view w'.host) →
        Does (commandsOf (⟨read, w'.events, ending⟩ :: packetLoop H moby w' reads)) (view w.host)
          (view (loopHost H moby w' reads)) := by
      intro w' ending hdoes
      rw [hcons _ _ rfl]
      exact hdoes.trans (ih w')
    unfold packetLoop loopHost
    cases hrun : serve H moby read { w with events := [] } with
    | error stop w' =>
      rw [hrun] at hserve
      cases stop with
      | panic p => exact hlast w' _ hserve
      | error err => exact hlast w' _ hserve
    | ok ending w' =>
      rw [hrun] at hserve
      cases ending with
      | returned err => exact hlast w' _ hserve
      | replied reply => exact hnext w' _ hserve
      | ignored => exact hnext w' _ hserve
      | panicked p => exact hnext w' _ hserve

/-- What `Connect` does before its loop. -/
theorem setup_does (s : σ) (master : String) :
    Does [] (view s) (view (Effect.stateOf (setup H master { host := s, globals := {} })).host) := by
  have hlenient : Lenient fun _ (e : Event interface) => e.call.harmless :=
    ⟨fun _ _ h => Call.harmless_of_changes h⟩
  have hfirewall : Confined H (fun _ (e : Event interface) => e.call.harmless) []
      (setupFirewall H master) Bare := by
    refine .callThen (fun _ _ _ => .inl rfl) fun nft => .index fun part => ?_
    exact .call fun _ _ _ => .inl rfl
  have hnetworks : Confined H (fun _ (e : Event interface) => e.call.harmless) []
      (printNetworks H) Bare := by
    have hconn : Confined H (fun _ (e : Event interface) => e.call.harmless) []
        (getQEMU H >>= pure) Bare := getQEMU_confined hlenient fun conn => .value
    rw [bind_pure] at hconn
    refine .next (.catchError hconn) fun qemu => .derefAny fun qemu => ?_
    exact .look (fun _ _ _ => .inl rfl) fun _ => .value
  have hsetup : Confined H (fun _ (e : Event interface) => e.call.harmless) []
      (setup H master) Bare :=
    .next (.catchError hfirewall) fun err => .next hnetworks fun _ => .value
  exact hH.confined hsetup (fun _ _ h => h) { host := s, globals := {} } rfl

/-- **The process refines the hypervisor.** On a host whose libvirt is a
hypervisor, every run of `Connect`, whatever the packets and whatever fails,
is for the domains and the volumes a run of the node commands in the packets
that it handled, in their order, with guests that may power off in between.
So it keeps what these runs keep: machines that share no disk never do. -/
theorem connect_refines (moby : Moby) (s : σ) (master : String)
    (reads : List (Except String Packet)) :
    Does (commandsOf (connect H moby s master reads).served) (view s)
        (view (connectHost H moby s master reads)) ∧
      (DisksOK (view s) → DisksOK (view (connectHost H moby s master reads))) := by
  have hdoes : Does (commandsOf (connect H moby s master reads).served) (view s)
      (view (connectHost H moby s master reads)) := by
    have hsetup := setup_does hH s master
    unfold connect connectHost
    cases hrun : setup H master { host := s, globals := {} } with
    | ok firewall w =>
      rw [hrun] at hsetup
      exact hsetup.trans (packetLoop_does hH moby reads w)
    | error stop w =>
      rw [hrun] at hsetup
      cases stop with
      | panic p => exact hsetup
      | error err => exact hsetup
  refine ⟨hdoes, fun hok => ?_⟩
  obtain ⟨events, hplain, -, hrun⟩ := hdoes
  exact Machine.run_invariant_of_meets
    (fun _ _ _ hok hplain hstep => hostStep_disks hok hplain hstep) hok (.of_mem _ hplain) hrun

end

/-! ## A host -/

/-- A program of the hypervisor as a call. -/
def performed {α : Type} (m : Libvirt α) (h : Hypervisor) : Except String α × Hypervisor :=
  match m h with
  | .ok x h' => (.ok x, h')
  | .error err _ => (.error err, h)

/-- A lookup. -/
def found {k : Kind} (p : Prop) [Decidable p] (key : String) (h : Hypervisor) :
    Except String (Ref k) × Hypervisor :=
  if p then (.ok ⟨key⟩, h) else (.error "not found", h)

/-- Where a new volume is put. -/
def newPath : String := unseeing.path

/-- The hypervisor itself as a host: it has no docker, and its libvirt fails
only where it refuses a call. -/
def libvirtHost : Host interface Hypervisor where
  answer c h := match c with
    | .newConnect => (.ok ⟨"qemu:///system"⟩, h)
    | .lookup .domain _ key => found ((h.domains key).isSome = true) key h
    | .lookup .pool _ key => found (key ∈ h.pools) key h
    | .lookup .volume _ key => found (key ∈ h.volumes) key h
    | .storageVolCreateXML pool xml => performed
      (Ref.mk <$> Slave.storageVolCreateXML { path := newPath } pool.id xml) h
    | .domainDefineXML _ xml => performed
      (Ref.mk <$> Slave.domainDefineXML { path := newPath } xml) h
    | .domainOp d op => performed (op.apply { path := newPath } d.id) h
    | .isActive .domain d => (.ok ((h.domains d.id).elim false Domain.running), h)
    | .getPath v => (.ok v.id, h)
    | .delete v => (.ok (), { h with volumes := h.volumes.erase v.id })
    | .free _ _ => (.ok (), h)
    | .writePacket _ => (.ok (), h)
    | _ => (.error "unavailable", h)

theorem performed_error {α : Type} {m : Libvirt α} {h : Hypervisor} {err : String}
    (herr : (performed m h).1 = .error err) : (performed m h).2 = h := by
  unfold performed at herr ⊢
  cases hm : m h with
  | ok x h' =>
    rw [hm] at herr
    cases herr
  | error err h' => rfl

theorem performed_ok {α : Type} {m : Libvirt α} {h : Hypervisor} {x : α}
    (hok : (performed m h).1 = .ok x) : m h = .ok x (performed m h).2 := by
  unfold performed at hok ⊢
  cases hm : m h with
  | ok y h' =>
    rw [hm] at hok
    cases hok
    rfl
  | error err h' =>
    rw [hm] at hok
    cases hok

/-- A reference is to what the hypervisor has returned. -/
theorem performed_ref {k : Kind} {m : Libvirt String} {h h' : Hypervisor} {r : Ref k}
    (hrun : (Ref.mk <$> m : Libvirt (Ref k)) h = .ok r h') : m h = .ok r.id h' := by
  rw [map_eq_pure_bind] at hrun
  obtain ⟨id, h₁, hm, hpure⟩ := Effect.bind_eq_ok hrun
  cases hpure
  exact hm

section
variable {k : Kind} {p : Prop} [Decidable p] {key : String} {h : Hypervisor}

theorem found_snd : (found p key h : Except String (Ref k) × Hypervisor).2 = h := by
  unfold found
  split <;> rfl

theorem found_ok {r : Ref k} (hok : (found p key h).1 = .ok r) : r.id = key ∧ p := by
  unfold found at hok
  split at hok
  · next hp =>
    cases hok
    exact ⟨rfl, hp⟩
  · cases hok

end

theorem libvirtHost_onHypervisor : OnHypervisor libvirtHost id where
  failed c h err herr := by
    unfold libvirtHost at herr ⊢
    dsimp only [id] at herr ⊢
    split at herr
    case h_2 | h_3 | h_4 => exact found_snd
    case h_5 | h_6 | h_7 => exact performed_error herr
    case h_13 => rfl
    all_goals cases herr
  done c h v hv := by
    unfold libvirtHost at hv ⊢
    dsimp only [id] at hv ⊢
    split at hv
    case h_2 =>
      obtain ⟨hid, hsome⟩ := found_ok hv
      exact ⟨found_snd, hid, Option.isSome_iff_ne_none.mp hsome⟩
    case h_3 =>
      obtain ⟨hid, hmem⟩ := found_ok hv
      exact ⟨found_snd, hid, hmem⟩
    case h_4 =>
      obtain ⟨hid, hmem⟩ := found_ok hv
      exact ⟨found_snd, hid, hmem⟩
    case h_5 => exact ⟨_, ⟨by decide, by decide⟩, performed_ref (performed_ok hv)⟩
    case h_6 => exact ⟨_, performed_ref (performed_ok hv)⟩
    case h_7 => exact ⟨_, performed_ok hv⟩
    case h_8 =>
      cases hv
      exact ⟨rfl, rfl⟩
    case h_9 =>
      cases hv
      exact ⟨rfl, rfl⟩
    case h_10 | h_11 | h_1 => rfl
    case h_12 => exact ⟨[], rfl⟩
    all_goals cases hv

def destroyVM : NodeCommand where
  action := "libvirt.domain.destroy"
  params := some (LibvirtVMActionParams.marshal { name := "vm" })

def destroyPacket : Packet where
  type := packetNodeCommand
  id := "d1"
  payload := some destroyVM.marshal

/-- The machine of the host is destroyed, and has its disk still to itself. -/
theorem connect_refines_destroy :
    Does [destroyVM] runningHost (connectHost libvirtHost ⟨some, fun _ => none⟩ runningHost
      "10.0.0.1:49149" [.ok destroyPacket]) ∧
    DisksOK (connectHost libvirtHost ⟨some, fun _ => none⟩ runningHost
      "10.0.0.1:49149" [.ok destroyPacket]) := by
  have hrefines := connect_refines libvirtHost_onHypervisor ⟨some, fun _ => none⟩ runningHost
    "10.0.0.1:49149" [.ok destroyPacket]
  have hserved : commandsOf (connect libvirtHost ⟨some, fun _ => none⟩ runningHost
      "10.0.0.1:49149" [.ok destroyPacket]).served = [destroyVM] := rfl
  rw [hserved] at hrefines
  exact ⟨hrefines.1, hrefines.2 runningHost_disks⟩

end Centralisd.Slave.Process
