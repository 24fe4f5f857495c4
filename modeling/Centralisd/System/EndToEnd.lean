import Centralisd.System.Hops
import Centralisd.System.Provenance

/-!
# Centralisd — commands end to end

What orchestrator, masters and slaves guarantee together for the commands
of `SendCommandWait` and `SendClusterCommandWait`, in every reachable state
of `System/Tiers`. The two relays of `System/Hops` say that nothing is done
twice; `System/Provenance` says for whom it is done and where a reply comes
from.

* `commands_end_to_end` — at most one handler call a command, on the node
  the master looked up; at most one write, to a master that was fit for it;
  and a reply that comes from that call or reports an error.
-/

namespace Centralisd.Tiers

variable {ttl : Int} {masterOf : ConnID → Nat} {s : State}

/-- Two handler calls for one command are one: the command became one
request, and the request was handled once. -/
theorem invocation_unique (hmaster : Relay.Inv (masterHop s)) (hnode : Relay.Inv (nodeHop s))
    {k u u' : Nat} {v v' : Invocation} (hu : s.invocations[u]? = some v)
    (hu' : s.invocations[u']? = some v') (hk : s.cause v = some k) (hk' : s.cause v' = some k) :
    u = u' := by
  -- the request of an invocation is a use of its command
  have huse : ∀ {v : Invocation}, s.cause v = some k →
      (masterHop s).uses[v.request]? = some (some k) := by
    intro v hv
    obtain ⟨l, hl, hcause⟩ := Option.bind_eq_some_iff.mp hv
    obtain ⟨r, hr, hlookup⟩ := Option.bind_eq_some_iff.mp hl
    show (s.requests.map NodeRequest.cause)[v.request]? = _
    rw [List.getElem?_map, hr, Option.map_some, NodeRequest.cause, hlookup, Option.bind_some,
      hcause]
  -- one command, one request
  have hrequest : v.request = v'.request := hmaster.use_unique (huse hk) (huse hk')
  have huses : ∀ {u : Nat} {v : Invocation}, s.invocations[u]? = some v →
      (nodeHop s).uses[u]? = some (some v.request) := by
    intro u v hu
    show (s.invocations.map fun v => some v.request)[u]? = _
    rw [List.getElem?_map, hu, Option.map_some]
  -- one request, one call of a handler
  exact hnode.use_unique (huses hu) (hrequest ▸ huses hu')

/-- Where a command was written, and why there. -/
theorem Inv.write (hs : Inv ttl masterOf s) (hwrites : WritesOK s) {w : Nat × ConnID}
    (hw : w ∈ s.writes) :
    ∃ i conns, s.commands w.1 = some (.requesting i conns) ∧ i.OK ttl ∧
      Orchestrator.lookupMaster conns i.masterID = .ok w.2 := by
  obtain ⟨call, hcall, hroute⟩ := Option.bind_eq_some_iff.mp (hwrites.route w hw)
  obtain ⟨i, conns, hk, hi, hlookup, -⟩ := hs.content.calls w.1 call hcall
  obtain ⟨-, hconn⟩ := Option.ite_none_right_eq_some.mp hroute
  exact ⟨i, conns, hk, hi, Option.some.inj hconn ▸ hlookup⟩

/-- **Commands end to end.** For any commands, masters, connections and
slaves, any interleaving, drops and timeouts, with IDs that do not repeat,
in every reachable state:

1. two calls of command handlers made for one command are the same call;
   every call is made for a command, with what the command says, and on the
   connection that the registry of the command's master held under exactly
   the command's node ID when the master looked it up;
2. a command is written at most once, to the connection `masterConns` held
   for its master; a master chosen by `SendClusterCommandWait` was online
   in the trimmed cluster and reported the trimmed node ID at that moment;
3. a `CommandReply` that `sendCommandWait` returns names the command's node,
   and its status, message and output are those of the handler called for
   this command, or it is an error reported for it. -/
theorem commands_end_to_end (ttl : Int) (masterOf : ConnID → Nat) (as : List Action) (s : State)
    (hfresh : Machine.Meets (step ttl masterOf) FreshIDs init as)
    (hrun : Machine.run (step ttl masterOf) init as = some s) :
    ((∀ (k u u' : Nat) v v', s.invocations[u]? = some v → s.invocations[u']? = some v' →
        s.cause v = some k → s.cause v' = some k → u = u') ∧
      ∀ v ∈ s.invocations, ∃ k i conns call l, s.cause v = some k ∧
        s.commands k = some (.requesting i conns) ∧ s.orch.calls k = some call ∧
        s.lookup v = some l ∧ l.master = masterOf call.conn ∧
        Master.lookupNode l.nodes i.cmd.nodeID = .ok v.conn ∧
        Slave.commandHandler { type := packetNodeCommand, payload := i.received.command } =
          .ok (v.action, v.cmd)) ∧
    ((s.writes.map Prod.fst).Nodup ∧
      ∀ w ∈ s.writes, ∃ i conns, s.commands w.1 = some (.requesting i conns) ∧
        Orchestrator.lookupMaster conns i.masterID = .ok w.2 ∧
        ∀ req store now master, i.target = .chosen req store now master →
          i.masterID = master.id ∧ i.cmd.nodeID = trimSpace req.nodeID ∧
          (∃ id, store.lookup id = some master) ∧ master.cluster = trimSpace req.clusterID ∧
          master.fresh ttl now = true ∧
          Orchestrator.masterHasNode master (trimSpace req.nodeID) = true) ∧
    (∀ k call u reply, s.orch.calls k = some call → call.pc = .returned (.reply u) →
      Orchestrator.commandReply call.key u.packet = .ok reply →
      ∃ i conns, s.commands k = some (.requesting i conns) ∧ reply.nodeID = i.cmd.nodeID ∧
        (FromHandler s k reply ∨ ErrorFor s k reply)) := by
  have hs := inv_run hfresh hrun
  refine ⟨⟨?_, ?_⟩, ⟨(writesOK_run hrun).once, ?_⟩, ?_⟩
  · intro k u u' v v' hu hu' hk hk'
    exact invocation_unique (masterHop_run hrun) (nodeHop_run hrun) hu hu' hk hk'
  · exact fun v hv => hs.invocation hv
  · intro w hw
    obtain ⟨i, conns, hk, hi, hlookup⟩ := hs.write (writesOK_run hrun) hw
    refine ⟨i, conns, hk, hlookup, ?_⟩
    intro req store now master htarget
    obtain ⟨hmem, hhas, hid, hnode⟩ := hi.chosen req store now master htarget
    obtain ⟨hstored, hcluster, honline⟩ := Orchestrator.mem_mastersForCluster hmem
    exact ⟨hid, hnode, hstored, hcluster, honline, hhas⟩
  · intro k call u reply hcall hpc hreply
    exact hs.reply hcall hpc hreply

-- ---------------------------------------------------------------------------
-- A command that is carried out
-- ---------------------------------------------------------------------------

def demoMaster : Orchestrator.MasterEntry where
  id := "m"
  cluster := "c"
  nodes := [{ id := "n" }]
  lastSeen := 0

/-- A cluster command goes to its master, its node and back. -/
def carriedOut : List Action :=
  [.tables (AList.insert "m" demoMaster ∅) (KeyedTable.empty.register "m" 0)
      (fun _ => KeyedTable.empty.register "n" 0),
    .sendClusterCommandWait 0 " c" "n " (some (.obj [("action", .str "noop")])) 1 [demoMaster],
    .lookupMaster 0, .request 0 [1], .write 0 true, .loopRead 0, .lookupNode 0, .forward 0 [2],
    .nodeWrite 0 true, .slaveRead 0, .slaveHandle 0 .null, .handlerReturn 0 (.ok none),
    .slaveReply 0 true, .nodeRead 0, .node (.lookup 0), .node (.send 0), .node (.receive 0),
    .nodeReturn 0 "", .loopReply 0 true, .orchRead 0, .orch (.lookup 0), .orch (.send 0),
    .orch (.receive 0)]

theorem carriedOut_freshIDs : Machine.Meets (step 60 id) FreshIDs init carriedOut := by
  -- the two requests are the first of their tiers
  have hfirst : ∀ {reqs : Requests}, (∀ k, reqs.calls k = none) → ∀ k c key,
      PendingTable.FreshKeys reqs (.start k c key) := by
    intro reqs hnone k c key k' call hcall
    exact absurd ((hnone k').symm.trans hcall) (by simp)
  exact .cons trivial rfl <| .cons trivial rfl <| .cons trivial rfl <|
    .cons (fun c => hfirst (fun _ => rfl) 0 c _) rfl <| .cons trivial rfl <| .cons trivial rfl <|
    .cons trivial rfl <| .cons (fun n => hfirst (fun _ => rfl) _ n _) rfl <|
    .cons trivial rfl <| .cons trivial rfl <| .cons trivial rfl <| .cons trivial rfl <|
    .cons trivial rfl <| .cons trivial rfl <| .cons trivial rfl <| .cons trivial rfl <|
    .cons trivial rfl <| .cons trivial rfl <| .cons trivial rfl <| .cons trivial rfl <|
    .cons trivial rfl <| .cons trivial rfl <| .cons trivial rfl trivial

/-- The command is carried out once, and its caller gets the handler's
reply. -/
theorem carriedOut_endToEnd :
    ∃ s call u reply, Machine.run (step 60 id) init carriedOut = some s ∧
      s.invocations.length = 1 ∧ s.writes = [(0, 0)] ∧ s.orch.calls 0 = some call ∧
      call.pc = .returned (.reply u) ∧
      Orchestrator.commandReply call.key u.packet = .ok reply ∧ reply.status = "ok" ∧
      ∃ i conns, s.commands 0 = some (.requesting i conns) ∧ reply.nodeID = i.cmd.nodeID ∧
        (FromHandler s 0 reply ∨ ErrorFor s 0 reply) := by
  refine ⟨_, _, _, _, rfl, rfl, rfl, rfl, rfl, rfl, rfl, ?_⟩
  exact (commands_end_to_end 60 id carriedOut _ carriedOut_freshIDs rfl).2.2 0 _ _ _ rfl rfl rfl

end Centralisd.Tiers
