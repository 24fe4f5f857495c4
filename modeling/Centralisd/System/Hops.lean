import Centralisd.Lib.Relay
import Centralisd.System.Tiers

/-!
# Centralisd — each hop of a command is a relay

A command is a request twice over: the orchestrator's to a master, and the
master's to a node. On each hop a connection is served by one loop, which
takes a packet, acts on it once and goes on: `readOrchestratorLoop` makes
one request to a node of a command, and a slave's `Connect` loop makes one
handler call of a request. Both hops are a `Relay`: every step of the tiers
is a step of it or leaves it alone (`masterHop_step`, `nodeHop_step`).

* `masterHop_run`, `nodeHop_run` — the invariant of `Relay` holds of both
  hops in every reachable state;
* `writesOK_run` — a command is written once, on its own connection.
-/

namespace Centralisd.Tiers

variable {ttl : Int} {masterOf : ConnID → Nat} {s t : State} {a : Action}

-- ---------------------------------------------------------------------------
-- The two hops
-- ---------------------------------------------------------------------------

def Loop.held : Loop → Option Nat
  | .forwarding cause _ _ => cause
  | .found cause _ _ _ _ _ => cause
  | _ => none

def Slave.held : Slave → Option Nat
  | .handling _ j _ => some j
  | _ => none

/-- From the orchestrator to the masters: a use is a request to a node. -/
def masterHop (s : State) : Relay.State ConnID where
  route := s.orch.route
  queue := fun c => (s.down c).map Prod.snd
  held := fun c => (s.loop c).held
  uses := s.requests.map NodeRequest.cause

/-- From the masters to the nodes: a use is a call of a command handler. -/
def nodeHop (s : State) : Relay.State ConnID where
  route := s.node.route
  queue := fun n => (s.nodeDown n).map fun e => some e.2
  held := fun n => (s.slave n).held
  uses := s.invocations.map fun v => some v.request

/-- Changing one connection's entry changes one entry of what is read off. -/
theorem comp_update {α β : Type} (g : α → β) (f : ConnID → α) (c : ConnID) (x : α) :
    (fun c' => g (Function.update f c x c')) = Function.update (fun c' => g (f c')) c (g x) :=
  funext fun c' => Function.apply_update (fun _ => g) f c x c'

theorem masterHop_setLoop (s : State) (c : ConnID) (l : Loop) :
    masterHop (s.setLoop c l) =
      { masterHop s with held := Function.update (masterHop s).held c l.held } := by
  simp only [masterHop, State.setLoop, comp_update Loop.held]

theorem nodeHop_setSlave (s : State) (n : ConnID) (l : Slave) :
    nodeHop (s.setSlave n l) =
      { nodeHop s with held := Function.update (nodeHop s).held n l.held } := by
  simp only [nodeHop, State.setSlave, comp_update Slave.held]

theorem replying_held (r : Except String Packet) : (replying r).held = none := by
  cases r <;> rfl

theorem slaveReplying_held (r : Except String Packet) : (slaveReplying r).held = none := by
  cases r <;> rfl

/-- A loop that reads a packet holds its command or nothing. -/
theorem onPacket_held (packet : Packet) (cause : Option Nat) :
    ∃ keep : Bool, (onPacket packet cause).held = if keep then cause else none := by
  unfold onPacket
  split
  · exact ⟨false, rfl⟩
  · exact ⟨false, rfl⟩
  · split
    · exact ⟨false, rfl⟩
    · exact ⟨true, rfl⟩

/-- After the lookup the loop still holds the command, or it has given up. -/
theorem onForwarding_held (nodes : Master.Registry) (cause : Option Nat) (packetID : String)
    (cmd : OrchestratorCommand) :
    (onForwarding nodes cause packetID cmd).held = cause ∨
      (onForwarding nodes cause packetID cmd).held = none := by
  unfold onForwarding
  split
  · exact .inr rfl
  · split
    · exact .inr (replying_held _)
    · exact .inl rfl

theorem inner_ne_write {b : PendingTable.Action ConnID String Packet} (hb : inner b = true)
    (k : Nat) (ok : Bool) : b ≠ .write k ok := by
  rintro rfl
  cases hb

theorem masterHop_step (h : Step ttl masterOf s a t) :
    masterHop t = masterHop s ∨ ∃ b, Relay.step (masterHop s) b = some (masterHop t) := by
  cases h with
  | @request k random i conns c orch hk ho =>
    left
    simp only [masterHop, State.setCommand, PendingTable.step_route ho (by simp)]
  | @write k ok i conns call orch hk hcall ho =>
    -- the write gives the command its route; the packet arrives if it succeeds
    obtain ⟨hnone, hroute⟩ := PendingTable.step_write ho hcall
    refine .inr ⟨.write k call.conn ok, ?_⟩
    simp only [Relay.step, masterHop, hnone, hroute]
    cases ok with
    | false => rfl
    | true =>
      simp only [if_true, comp_update (List.map Prod.snd), List.map_append, List.map_cons,
        List.map_nil]
  | @orch b orch hb ho =>
    left
    simp only [masterHop, PendingTable.step_route ho (inner_ne_write hb)]
  | @orchRead c packet rest orch hup ho =>
    left
    simp only [masterHop, PendingTable.step_route ho (by simp)]
  | @answer c error =>
    refine .inr ⟨.put c, ?_⟩
    simp only [Relay.step, masterHop, comp_update (List.map Prod.snd), List.map_append,
      List.map_cons, List.map_nil]
  | @loopRead c packet cause rest hloop hdown =>
    obtain ⟨keep, hkeep⟩ := onPacket_held packet cause
    -- the loop reads on only when it is done with the command before
    have hidle : (s.loop c).held = none := by
      rw [hloop]
      rfl
    refine .inr ⟨.take c keep, ?_⟩
    simp only [Relay.step, masterHop, State.setLoop, hidle, hdown, List.map_cons,
      comp_update (List.map Prod.snd), comp_update Loop.held, hkeep]
  | @handOver c hloop =>
    exact .inr ⟨.drop c, by rw [masterHop_setLoop]; rfl⟩
  | @lookupNode c cause packetID cmd hloop =>
    rw [masterHop_setLoop]
    rcases onForwarding_held (s.nodes (masterOf c)) cause packetID cmd with hheld | hheld
    · -- still held: nothing has moved
      left
      have hc : (masterHop s).held c = cause := by
        show (s.loop c).held = cause
        rw [hloop]
        rfl
      rw [hheld, ← hc, Function.update_eq_self]
    · exact .inr ⟨.drop c, by rw [hheld]; rfl⟩
  | @forward c random cause packetID nodeID cmdPacket nodes n node hloop hn =>
    have hheld : (s.loop c).held = cause := by
      rw [hloop]
      rfl
    -- the command the loop holds becomes a request to a node
    refine .inr ⟨.use c, ?_⟩
    simp only [Relay.step, masterHop, hheld, comp_update Loop.held, List.map_append, List.map_cons,
      List.map_nil]
    rfl
  | @heartbeat n random packet node hp hn =>
    -- a request to a node that no command asked for
    refine .inr ⟨.useOther, ?_⟩
    simp only [Relay.step, masterHop, List.map_append, List.map_cons, List.map_nil,
      NodeRequest.cause, Option.bind_none]
  | @nodeReturn c err packetID nodeID j call out hloop hcall hpc =>
    exact .inr ⟨.drop c, by rw [masterHop_setLoop, replying_held]; rfl⟩
  | @masterReply c reply packetID hloop =>
    exact .inr ⟨.drop c, by rw [masterHop_setLoop, replying_held]; rfl⟩
  | @loopReply c ok reply hloop =>
    refine .inr ⟨.drop c, ?_⟩
    simp only [Relay.step, masterHop, State.setLoop, comp_update Loop.held]
    rfl
  | _ => exact .inl rfl

theorem nodeHop_step (h : Step ttl masterOf s a t) :
    nodeHop t = nodeHop s ∨ ∃ b, Relay.step (nodeHop s) b = some (nodeHop t) := by
  cases h with
  | forward _ hn =>
    left
    simp only [nodeHop, PendingTable.step_route hn (by simp)]
  | heartbeat _ hn =>
    left
    simp only [nodeHop, PendingTable.step_route hn (by simp)]
  | @nodeWrite j ok r call node hr hcall hn =>
    obtain ⟨hnone, hroute⟩ := PendingTable.step_write hn hcall
    refine .inr ⟨.write j call.conn ok, ?_⟩
    simp only [Relay.step, nodeHop, hnone, hroute]
    cases ok with
    | false => rfl
    | true =>
      simp only [if_true, comp_update (List.map fun e : Packet × Nat => some e.2),
        List.map_append, List.map_cons, List.map_nil]
  | node hb hn =>
    left
    simp only [nodeHop, PendingTable.step_route hn (inner_ne_write hb)]
  | nodeRead _ hn =>
    left
    simp only [nodeHop, PendingTable.step_route hn (by simp)]
  | @slaveRead n packet j rest hslave hdown =>
    have hidle : (s.slave n).held = none := by
      rw [hslave]
      rfl
    -- a packet without a handler is dropped at once
    refine .inr ⟨.take n (Slave.packetHandlers packet.type).isSome, ?_⟩
    simp only [Relay.step, nodeHop, State.setSlave, hidle, hdown, List.map_cons,
      comp_update (List.map fun e : Packet × Nat => some e.2), comp_update Slave.held]
    cases Slave.packetHandlers packet.type <;> rfl
  | @slaveHeartbeat n heartbeat j packet hslave =>
    exact .inr ⟨.drop n, by rw [nodeHop_setSlave, slaveReplying_held]; rfl⟩
  | @slaveRefused n heartbeat j packet reply hslave hreply =>
    exact .inr ⟨.drop n, by rw [nodeHop_setSlave, slaveReplying_held]; rfl⟩
  | @invoke n heartbeat j packet action cmd hslave hcmd =>
    have hheld : (s.slave n).held = some j := by
      rw [hslave]
      rfl
    -- the request the slave holds becomes a call of a handler
    refine .inr ⟨.use n, ?_⟩
    simp only [Relay.step, nodeHop, State.setSlave, hheld, comp_update Slave.held, List.map_append,
      List.map_cons, List.map_nil]
    rfl
  | @handlerReturn n result j packetID hslave =>
    refine .inr ⟨.drop n, ?_⟩
    simp only [Relay.step, nodeHop, State.setSlave, comp_update Slave.held, slaveReplying_held]
  | @slaveReply n ok reply hslave =>
    refine .inr ⟨.drop n, ?_⟩
    have hheld : (if ok then Slave.reading else Slave.ended).held = none := by
      cases ok <;> rfl
    simp only [Relay.step, nodeHop, State.setSlave, comp_update Slave.held, hheld]
  | _ => exact .inl rfl

-- ---------------------------------------------------------------------------
-- Writes
-- ---------------------------------------------------------------------------

/-- A command is written once, where its call was made. -/
structure WritesOK (s : State) : Prop where
  route : ∀ w ∈ s.writes, s.orch.route w.1 = some w.2
  once : (s.writes.map Prod.fst).Nodup

theorem WritesOK.keep (hs : WritesOK s) (hwrites : t.writes = s.writes)
    (hroute : t.orch.route = s.orch.route) : WritesOK t where
  route := by
    rw [hwrites, hroute]
    exact hs.route
  once := by
    rw [hwrites]
    exact hs.once

theorem writesOK_step (hs : WritesOK s) (h : Step ttl masterOf s a t) : WritesOK t := by
  cases h with
  | request _ ho => exact hs.keep rfl (PendingTable.step_route ho (by simp))
  | orch hb ho => exact hs.keep rfl (PendingTable.step_route ho (inner_ne_write hb))
  | orchRead _ ho => exact hs.keep rfl (PendingTable.step_route ho (by simp))
  | @write k ok i conns call orch hk hcall ho =>
    obtain ⟨hnone, hroute⟩ := PendingTable.step_write ho hcall
    -- a command that was written has a route, and this one had none
    have hne : ∀ w ∈ s.writes, w.1 ≠ k := by
      rintro w hw rfl
      exact absurd (hnone.symm.trans (hs.route w hw)) (by simp)
    constructor
    · intro w hw
      show orch.route w.1 = some w.2
      rw [hroute]
      rcases List.mem_append.mp hw with hold | hnew
      · rw [Function.update_of_ne (hne w hold)]
        exact hs.route w hold
      · obtain rfl := List.mem_singleton.mp hnew
        exact Function.update_self ..
    · show ((s.writes ++ [(k, call.conn)]).map Prod.fst).Nodup
      rw [List.map_append, List.nodup_append]
      refine ⟨hs.once, List.nodup_singleton k, ?_⟩
      rintro x hx y hy rfl
      obtain ⟨w, hw, rfl⟩ := List.mem_map.mp hx
      exact hne w hw (List.mem_singleton.mp hy)
  | _ => exact hs.keep rfl rfl

-- ---------------------------------------------------------------------------
-- Whole runs
-- ---------------------------------------------------------------------------

theorem writesOK_init : WritesOK init := ⟨fun _ h => absurd h List.not_mem_nil, List.nodup_nil⟩

theorem writesOK_run {as : List Action} (hrun : Machine.run (step ttl masterOf) init as = some s) :
    WritesOK s :=
  Machine.run_invariant (fun _ _ _ hs h => writesOK_step hs (step_cases h)) writesOK_init hrun

theorem relay_inv_init : Relay.Inv (masterHop init) ∧ Relay.Inv (nodeHop init) := by
  constructor <;> constructor <;> simp [masterHop, nodeHop, init, PendingTable.State.route,
    PendingTable.init, Loop.held, Slave.held]

theorem masterHop_run {as : List Action} (hrun : Machine.run (step ttl masterOf) init as = some s) :
    Relay.Inv (masterHop s) :=
  Machine.run_project (fun _ _ _ h => masterHop_step (step_cases h))
    (fun _ _ _ hs h => Relay.inv_step hs h) relay_inv_init.1 hrun

theorem nodeHop_run {as : List Action} (hrun : Machine.run (step ttl masterOf) init as = some s) :
    Relay.Inv (nodeHop s) :=
  Machine.run_project (fun _ _ _ h => nodeHop_step (step_cases h))
    (fun _ _ _ hs h => Relay.inv_step hs h) relay_inv_init.2 hrun

end Centralisd.Tiers
