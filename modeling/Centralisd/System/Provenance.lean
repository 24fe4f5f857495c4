import Centralisd.System.Tiers

/-!
# Centralisd — where a reply comes from

Every packet under way between the tiers, every thread that handles one and
every request is what the step that made it left: a command packet carries
its command, a request to a node goes back to a lookup, and a reply carries
the ID of the request it answers together with what the node or the master
made for it. `Content` says so for all of them at once. What it rests on
only grows (`Extends`), so a step has to account for what it adds and for
nothing else (`Changes`).

* `step_changes` — every step accounts for what it adds, so that `Inv`
  holds in every state of every run with fresh IDs;
* `Inv.reply` — what `sendCommandWait` returns is explained;
* `Inv.invocation` — so is every call of a command handler.
-/

namespace Centralisd.Tiers

variable {ttl : Int} {masterOf : ConnID → Nat} {s t : State} {a : Action}

-- ---------------------------------------------------------------------------
-- What only grows
-- ---------------------------------------------------------------------------

structure Extends (s t : State) : Prop where
  commands : ∀ k i conns, s.commands k = some (.requesting i conns) →
    t.commands k = some (.requesting i conns) := by exact fun _ _ _ h => h
  orch : PendingTable.Keeps s.orch t.orch := by exact PendingTable.Keeps.refl _
  node : PendingTable.Keeps s.node t.node := by exact PendingTable.Keeps.refl _
  requests : s.requests <+: t.requests := by exact List.prefix_rfl
  invocations : ∀ v ∈ s.invocations, v ∈ t.invocations := by exact fun _ h => h
  results : ∀ r ∈ s.results, r ∈ t.results := by exact fun _ h => h

/-- A command keeps its place in `sendRequest`. -/
theorem commands_setCommand {k : Nat} {stage : Stage}
    (hk : ∀ i conns, s.commands k ≠ some (.requesting i conns)) {k' : Nat} {i : Issue}
    {conns : Orchestrator.ConnTable} (h : s.commands k' = some (.requesting i conns)) :
    (s.setCommand k stage).commands k' = some (.requesting i conns) := by
  have hne : k' ≠ k := by
    rintro rfl
    exact hk i conns h
  show Function.update s.commands k (some stage) k' = _
  rwa [Function.update_of_ne hne]

theorem step_extends (h : Step ttl masterOf s a t) : Extends s t := by
  cases h with
  | refused hk => exact { commands := fun _ _ _ => commands_setCommand hk }
  | selected hk _ => exact { commands := fun _ _ _ => commands_setCommand (by simp [hk]) }
  | reached hk _ => exact { commands := fun _ _ _ => commands_setCommand (by simp [hk]) }
  | request hk ho =>
    exact { commands := fun _ _ _ => commands_setCommand (by simp [hk]),
            orch := PendingTable.step_keeps ho }
  | write _ _ ho => exact { orch := PendingTable.step_keeps ho }
  | orch _ ho => exact { orch := PendingTable.step_keeps ho }
  | orchRead _ ho => exact { orch := PendingTable.step_keeps ho }
  | forward _ hn => exact { node := PendingTable.step_keeps hn, requests := List.prefix_append .. }
  | heartbeat _ hn => exact { node := PendingTable.step_keeps hn, requests := List.prefix_append .. }
  | nodeWrite _ _ hn => exact { node := PendingTable.step_keeps hn }
  | node _ hn => exact { node := PendingTable.step_keeps hn }
  | nodeRead _ hn => exact { node := PendingTable.step_keeps hn }
  | invoke _ _ => exact { invocations := fun _ => List.mem_append_left _ }
  | handlerReturn _ => exact { results := fun _ => List.mem_append_left _ }
  | _ => exact {}

-- ---------------------------------------------------------------------------
-- What is under way
-- ---------------------------------------------------------------------------

/-- What a master decodes of a command: an empty one travels as `null`. -/
def Issue.received (i : Issue) : OrchestratorCommand :=
  ⟨i.cmd.nodeID, some (i.cmd.command.getD .null)⟩

/-- Command `k`, issued as `i`, is a request on `c` under `id`. -/
def Commanded (s : State) (c : ConnID) (k : Nat) (i : Issue) (id : String) : Prop :=
  (∃ conns, s.commands k = some (.requesting i conns)) ∧
    ∃ call, s.orch.calls k = some call ∧ call.conn = c ∧ call.key = id

/-- The lookup an invocation goes back to. -/
def State.lookup (s : State) (v : Invocation) : Option Lookup :=
  s.requests[v.request]?.bind NodeRequest.lookup

/-- The command an invocation was made for. -/
def State.cause (s : State) (v : Invocation) : Option Nat := (s.lookup v).bind Lookup.cause

/-- The reply a slave makes for request `j`: its handler's, or an error
before any handler is called. -/
def SlaveReply (s : State) (j : Nat) (reply : CommandReply) : Prop :=
  (∃ v result, v ∈ s.invocations ∧ v.request = j ∧ (j, result) ∈ s.results ∧
    reply = Slave.handlerReply result) ∨
  (reply.status = "error" ∧ reply.output = none ∧
    reply.message ∈ ["invalid command", "unknown action"])

/-- The reply says what the handler called for command `k` returned. -/
def FromHandler (s : State) (k : Nat) (reply : CommandReply) : Prop :=
  ∃ v result, v ∈ s.invocations ∧ s.cause v = some k ∧ (v.request, result) ∈ s.results ∧
    reply.status = (Slave.handlerReply result).status ∧
    reply.message = (Slave.handlerReply result).message ∧
    reply.output = (Slave.handlerReply result).output

/-- The texts of the errors that master and slave report, write errors
apart. -/
def errorTexts : List String :=
  ["invalid command", "unknown action", "node id is empty", "node not connected",
    "timeout waiting for reply", "unexpected reply type", "invalid reply payload"]

/-- The reply is an error reported for command `k`: one of the known texts,
or the write error of its request to the node. -/
def ErrorFor (s : State) (k : Nat) (reply : CommandReply) : Prop :=
  reply.status = "error" ∧ reply.output = none ∧
    (reply.message ∈ errorTexts ∨
      ∃ j r call, s.requests[j]? = some r ∧ r.cause = some k ∧ s.node.calls j = some call ∧
        call.pc = .returned .writeError)

/-- A reply that may be given to the caller of command `k`. -/
def Explained (s : State) (k : Nat) (i : Issue) (reply : CommandReply) : Prop :=
  reply.nodeID = i.cmd.nodeID ∧ (FromHandler s k reply ∨ ErrorFor s k reply)

/-! ### Packets and threads -/

def CallOK (ttl : Int) (s : State) (k : Nat) (c : ConnID) (key : String) : Prop :=
  ∃ i conns, s.commands k = some (.requesting i conns) ∧ i.OK ttl ∧
    Orchestrator.lookupMaster conns i.masterID = .ok c ∧ trimSpace key = key

def DownOK (s : State) (c : ConnID) (e : Packet × Option Nat) : Prop :=
  e.1.type ≠ packetOrchCommand ∨
    ∃ k i, e.2 = some k ∧ Commanded s c k i e.1.id ∧ e.1.payload = some i.cmd.marshal

def UpOK (s : State) (c : ConnID) (p : Packet) : Prop :=
  p.replyTo = "" ∨
    ∃ k i reply, Commanded s c k i p.replyTo ∧ p.payload = some reply.marshal ∧
      Explained s k i reply

def LoopOK (s : State) (c : ConnID) : Loop → Prop
  | .forwarding cause id cmd => ∃ k i, cause = some k ∧ Commanded s c k i id ∧ cmd = i.received
  | .found cause id nodeID cmdPacket nodes n => ∃ k i, cause = some k ∧ Commanded s c k i id ∧
      nodeID = i.cmd.nodeID ∧ cmdPacket.payload = i.received.command ∧
      Master.lookupNode nodes nodeID = .ok n
  | .awaiting id nodeID j => ∃ r l k i, s.requests[j]? = some r ∧ r.lookup = some l ∧
      l.cause = some k ∧ Commanded s c k i id ∧ nodeID = i.cmd.nodeID
  -- commands for a master itself are not issued
  | .mastering _ => False
  | .replying reply => UpOK s c reply
  | _ => True

def RequestOK (masterOf : ConnID → Nat) (s : State) (r : NodeRequest) : Prop :=
  match r.lookup with
  | none => r.packet.type = packetHeartbeat
  | some l => ∃ k i c id, l.cause = some k ∧ Commanded s c k i id ∧ l.master = masterOf c ∧
      l.nodeID = i.cmd.nodeID ∧ r.packet.payload = i.received.command

def NodeCallOK (s : State) (j : Nat) (n : ConnID) (key : String) : Prop :=
  ∃ r, s.requests[j]? = some r ∧ trimSpace key = key ∧
    ∀ l, r.lookup = some l → Master.lookupNode l.nodes l.nodeID = .ok n

def NodeDownOK (s : State) (n : ConnID) (e : Packet × Nat) : Prop :=
  ∃ r call, s.requests[e.2]? = some r ∧ s.node.calls e.2 = some call ∧ call.conn = n ∧
    e.1 = { r.packet with id := call.key }

def NodeUpOK (s : State) (p : Packet) : Prop :=
  p.type ≠ packetNodeCommandReply ∨
    ∃ j call reply, s.node.calls j = some call ∧ p.replyTo = call.key ∧
      p.payload = some reply.marshal ∧ SlaveReply s j reply

def SlaveOK (s : State) (n : ConnID) : Slave → Prop
  | .handling h j packet =>
      NodeDownOK s n (packet, j) ∧ Slave.packetHandlers packet.type = some h
  | .running j id => (∃ call, s.node.calls j = some call ∧ call.key = id) ∧
      ∃ v ∈ s.invocations, v.request = j
  | .replying reply => NodeUpOK s reply
  | _ => True

def InvocationOK (s : State) (v : Invocation) : Prop :=
  ∃ r call, s.requests[v.request]? = some r ∧ s.node.calls v.request = some call ∧
    call.conn = v.conn ∧ r.packet.type = packetNodeCommand ∧
    Slave.commandHandler r.packet = .ok (v.action, v.cmd)

/-! ### Nothing of it is taken back -/

theorem Extends.request (h : Extends s t) {j : Nat} {r : NodeRequest}
    (hr : s.requests[j]? = some r) : t.requests[j]? = some r := by
  obtain ⟨rest, hrest⟩ := h.requests
  obtain ⟨hj, -⟩ := List.getElem?_eq_some_iff.mp hr
  rw [← hrest, List.getElem?_append_left hj, hr]

theorem Commanded.mono (h : Extends s t) {c : ConnID} {k : Nat} {i : Issue} {id : String}
    (hc : Commanded s c k i id) : Commanded t c k i id := by
  obtain ⟨⟨conns, hk⟩, call, hcall, hconn, hkey⟩ := hc
  obtain ⟨call', hcall', hconn', hkey', -⟩ := h.orch k call hcall
  exact ⟨⟨conns, h.commands k i conns hk⟩, call', hcall', hconn'.trans hconn, hkey'.trans hkey⟩

theorem SlaveReply.mono (h : Extends s t) {j : Nat} {reply : CommandReply}
    (hr : SlaveReply s j reply) : SlaveReply t j reply := by
  rcases hr with ⟨v, result, hv, hj, hres, heq⟩ | herr
  · exact .inl ⟨v, result, h.invocations v hv, hj, h.results _ hres, heq⟩
  · exact .inr herr

theorem lookup_mono (h : Extends s t) {v : Invocation} {l : Lookup} (hl : s.lookup v = some l) :
    t.lookup v = some l := by
  obtain ⟨r, hr, hlookup⟩ := Option.bind_eq_some_iff.mp hl
  exact Option.bind_eq_some_iff.mpr ⟨r, h.request hr, hlookup⟩

theorem cause_mono (h : Extends s t) {v : Invocation} {k : Nat} (hk : s.cause v = some k) :
    t.cause v = some k := by
  obtain ⟨l, hl, hcause⟩ := Option.bind_eq_some_iff.mp hk
  exact Option.bind_eq_some_iff.mpr ⟨l, lookup_mono h hl, hcause⟩

theorem Explained.mono (h : Extends s t) {k : Nat} {i : Issue} {reply : CommandReply}
    (he : Explained s k i reply) : Explained t k i reply := by
  obtain ⟨hnode, ⟨v, result, hv, hk, hres, heq⟩ | ⟨hstatus, hout, htext⟩⟩ := he
  · exact ⟨hnode, .inl ⟨v, result, h.invocations v hv, cause_mono h hk, h.results _ hres, heq⟩⟩
  · refine ⟨hnode, .inr ⟨hstatus, hout, ?_⟩⟩
    rcases htext with htext | ⟨j, r, call, hr, hcause, hcall, hpc⟩
    · exact .inl htext
    · obtain ⟨call', hcall', -, -, hreturned⟩ := h.node j call hcall
      exact .inr ⟨j, r, call', h.request hr, hcause, hcall', hreturned _ hpc⟩

theorem CallOK.mono (h : Extends s t) {k : Nat} {c : ConnID} {key : String}
    (hc : CallOK ttl s k c key) : CallOK ttl t k c key := by
  obtain ⟨i, conns, hk, hrest⟩ := hc
  exact ⟨i, conns, h.commands k i conns hk, hrest⟩

theorem DownOK.mono (h : Extends s t) {c : ConnID} {e : Packet × Option Nat}
    (hd : DownOK s c e) : DownOK t c e := by
  rcases hd with htype | ⟨k, i, hk, hcmd, hp⟩
  · exact .inl htype
  · exact .inr ⟨k, i, hk, hcmd.mono h, hp⟩

theorem UpOK.mono (h : Extends s t) {c : ConnID} {p : Packet} (hu : UpOK s c p) : UpOK t c p := by
  rcases hu with hempty | ⟨k, i, reply, hcmd, hp, he⟩
  · exact .inl hempty
  · exact .inr ⟨k, i, reply, hcmd.mono h, hp, he.mono h⟩

theorem LoopOK.mono (h : Extends s t) {c : ConnID} {l : Loop} (hl : LoopOK s c l) :
    LoopOK t c l := by
  cases l with
  | forwarding cause id cmd =>
    obtain ⟨k, i, hk, hcmd, hrest⟩ := hl
    exact ⟨k, i, hk, hcmd.mono h, hrest⟩
  | found cause id nodeID cmdPacket nodes n =>
    obtain ⟨k, i, hk, hcmd, hrest⟩ := hl
    exact ⟨k, i, hk, hcmd.mono h, hrest⟩
  | awaiting id nodeID j =>
    obtain ⟨r, l, k, i, hr, hl, hk, hcmd, hrest⟩ := hl
    exact ⟨r, l, k, i, h.request hr, hl, hk, hcmd.mono h, hrest⟩
  | mastering id => exact hl
  | replying reply => exact UpOK.mono h hl
  | _ => trivial

theorem RequestOK.mono (h : Extends s t) {r : NodeRequest} (hr : RequestOK masterOf s r) :
    RequestOK masterOf t r := by
  unfold RequestOK at hr ⊢
  split at hr
  · exact hr
  · obtain ⟨k, i, c, id, hk, hcmd, hrest⟩ := hr
    exact ⟨k, i, c, id, hk, hcmd.mono h, hrest⟩

theorem NodeCallOK.mono (h : Extends s t) {j : Nat} {n : ConnID} {key : String}
    (hc : NodeCallOK s j n key) : NodeCallOK t j n key := by
  obtain ⟨r, hr, hrest⟩ := hc
  exact ⟨r, h.request hr, hrest⟩

theorem NodeDownOK.mono (h : Extends s t) {n : ConnID} {e : Packet × Nat}
    (hd : NodeDownOK s n e) : NodeDownOK t n e := by
  obtain ⟨r, call, hr, hcall, hconn, he⟩ := hd
  obtain ⟨call', hcall', hconn', hkey', -⟩ := h.node _ call hcall
  exact ⟨r, call', h.request hr, hcall', hconn'.trans hconn, by rw [hkey']; exact he⟩

theorem NodeUpOK.mono (h : Extends s t) {p : Packet} (hu : NodeUpOK s p) : NodeUpOK t p := by
  rcases hu with htype | ⟨j, call, reply, hcall, hreply, hp, hslave⟩
  · exact .inl htype
  · obtain ⟨call', hcall', -, hkey', -⟩ := h.node j call hcall
    exact .inr ⟨j, call', reply, hcall', hreply.trans hkey'.symm, hp, hslave.mono h⟩

theorem SlaveOK.mono (h : Extends s t) {n : ConnID} {l : Slave} (hl : SlaveOK s n l) :
    SlaveOK t n l := by
  cases l with
  | handling handler j packet => exact ⟨NodeDownOK.mono h hl.1, hl.2⟩
  | running j id =>
    obtain ⟨⟨call, hcall, hkey⟩, v, hv, hj⟩ := hl
    obtain ⟨call', hcall', -, hkey', -⟩ := h.node j call hcall
    exact ⟨⟨call', hcall', hkey'.trans hkey⟩, v, h.invocations v hv, hj⟩
  | replying reply => exact NodeUpOK.mono h hl
  | _ => trivial

theorem InvocationOK.mono (h : Extends s t) {v : Invocation} (hv : InvocationOK s v) :
    InvocationOK t v := by
  obtain ⟨r, call, hr, hcall, hconn, hrest⟩ := hv
  obtain ⟨call', hcall', hconn', -, -⟩ := h.node _ call hcall
  exact ⟨r, call', h.request hr, hcall', hconn'.trans hconn, hrest⟩

-- ---------------------------------------------------------------------------
-- The whole state
-- ---------------------------------------------------------------------------

structure Content (ttl : Int) (masterOf : ConnID → Nat) (s : State) : Prop where
  selected : ∀ k i, s.commands k = some (.selected i) → i.OK ttl
  found : ∀ k i conns c, s.commands k = some (.found i conns c) →
    i.OK ttl ∧ Orchestrator.lookupMaster conns i.masterID = .ok c
  calls : ∀ k call, s.orch.calls k = some call → CallOK ttl s k call.conn call.key
  down : ∀ c, ∀ e ∈ s.down c, DownOK s c e
  loop : ∀ c, LoopOK s c (s.loop c)
  up : ∀ c, ∀ p ∈ s.up c, UpOK s c p
  read : ∀ c, ∀ p ∈ s.orch.read c, UpOK s c p
  requests : ∀ r ∈ s.requests, RequestOK masterOf s r
  nodeCalls : ∀ j call, s.node.calls j = some call → NodeCallOK s j call.conn call.key
  nodeDown : ∀ n, ∀ e ∈ s.nodeDown n, NodeDownOK s n e
  slave : ∀ n, SlaveOK s n (s.slave n)
  nodeUp : ∀ n, ∀ p ∈ s.nodeUp n, NodeUpOK s p
  nodeRead : ∀ n, ∀ p ∈ s.node.read n, NodeUpOK s p
  invocations : ∀ v ∈ s.invocations, InvocationOK s v

theorem content_init : Content ttl masterOf init := by
  constructor <;> simp [init, PendingTable.init, LoopOK, SlaveOK]

theorem Content.loop_eq (hs : Content ttl masterOf s) {c : ConnID} {l : Loop}
    (h : s.loop c = l) : LoopOK s c l :=
  h ▸ hs.loop c

theorem Content.slave_eq (hs : Content ttl masterOf s) {n : ConnID} {l : Slave}
    (h : s.slave n = l) : SlaveOK s n l :=
  h ▸ hs.slave n

/-- A step that accounts for what it adds. -/
structure Changes (ttl : Int) (masterOf : ConnID → Nat) (s t : State) : Prop where
  grows : Extends s t
  selected : ∀ k i, t.commands k = some (.selected i) →
    s.commands k = some (.selected i) ∨ i.OK ttl := by exact fun _ _ h => .inl h
  found : ∀ k i conns c, t.commands k = some (.found i conns c) →
    s.commands k = some (.found i conns c) ∨
      (i.OK ttl ∧ Orchestrator.lookupMaster conns i.masterID = .ok c) := by
    exact fun _ _ _ _ h => .inl h
  calls : ∀ k call, t.orch.calls k = some call →
    (∃ call', s.orch.calls k = some call' ∧ call'.conn = call.conn ∧ call'.key = call.key) ∨
      CallOK ttl t k call.conn call.key := by exact fun _ call h => .inl ⟨call, h, rfl, rfl⟩
  down : ∀ c, ∀ e ∈ t.down c, e ∈ s.down c ∨ DownOK t c e := by exact fun _ _ h => .inl h
  loop : ∀ c, t.loop c = s.loop c ∨ LoopOK t c (t.loop c) := by exact fun _ => .inl rfl
  up : ∀ c, ∀ p ∈ t.up c, p ∈ s.up c ∨ UpOK t c p := by exact fun _ _ h => .inl h
  read : ∀ c, ∀ p ∈ t.orch.read c, p ∈ s.orch.read c ∨ UpOK t c p := by exact fun _ _ h => .inl h
  requests : ∀ r ∈ t.requests, r ∈ s.requests ∨ RequestOK masterOf t r := by
    exact fun _ h => .inl h
  nodeCalls : ∀ j call, t.node.calls j = some call →
    (∃ call', s.node.calls j = some call' ∧ call'.conn = call.conn ∧ call'.key = call.key) ∨
      NodeCallOK t j call.conn call.key := by exact fun _ call h => .inl ⟨call, h, rfl, rfl⟩
  nodeDown : ∀ n, ∀ e ∈ t.nodeDown n, e ∈ s.nodeDown n ∨ NodeDownOK t n e := by
    exact fun _ _ h => .inl h
  slave : ∀ n, t.slave n = s.slave n ∨ SlaveOK t n (t.slave n) := by exact fun _ => .inl rfl
  nodeUp : ∀ n, ∀ p ∈ t.nodeUp n, p ∈ s.nodeUp n ∨ NodeUpOK t p := by exact fun _ _ h => .inl h
  nodeRead : ∀ n, ∀ p ∈ t.node.read n, p ∈ s.node.read n ∨ NodeUpOK t p := by
    exact fun _ _ h => .inl h
  invocations : ∀ v ∈ t.invocations, v ∈ s.invocations ∨ InvocationOK t v := by
    exact fun _ h => .inl h

theorem Content.changes (hs : Content ttl masterOf s) (h : Changes ttl masterOf s t) :
    Content ttl masterOf t where
  selected k i hk := (h.selected k i hk).elim (hs.selected k i) id
  found k i conns c hk := (h.found k i conns c hk).elim (hs.found k i conns c) id
  calls k call hcall := by
    rcases h.calls k call hcall with ⟨call', hcall', hconn, hkey⟩ | hnew
    · rw [← hconn, ← hkey]
      exact (hs.calls k call' hcall').mono h.grows
    · exact hnew
  down c e he := (h.down c e he).elim (fun hold => (hs.down c e hold).mono h.grows) id
  loop c := by
    rcases h.loop c with hold | hnew
    · rw [hold]
      exact (hs.loop c).mono h.grows
    · exact hnew
  up c p hp := (h.up c p hp).elim (fun hold => (hs.up c p hold).mono h.grows) id
  read c p hp := (h.read c p hp).elim (fun hold => (hs.read c p hold).mono h.grows) id
  requests r hr := (h.requests r hr).elim (fun hold => (hs.requests r hold).mono h.grows) id
  nodeCalls j call hcall := by
    rcases h.nodeCalls j call hcall with ⟨call', hcall', hconn, hkey⟩ | hnew
    · rw [← hconn, ← hkey]
      exact (hs.nodeCalls j call' hcall').mono h.grows
    · exact hnew
  nodeDown n e he := (h.nodeDown n e he).elim (fun hold => (hs.nodeDown n e hold).mono h.grows) id
  slave n := by
    rcases h.slave n with hold | hnew
    · rw [hold]
      exact (hs.slave n).mono h.grows
    · exact hnew
  nodeUp n p hp := (h.nodeUp n p hp).elim (fun hold => (hs.nodeUp n p hold).mono h.grows) id
  nodeRead n p hp := (h.nodeRead n p hp).elim (fun hold => (hs.nodeRead n p hold).mono h.grows) id
  invocations v hv :=
    (h.invocations v hv).elim (fun hold => (hs.invocations v hold).mono h.grows) id

-- ---------------------------------------------------------------------------
-- What the steps add
-- ---------------------------------------------------------------------------

theorem update_cases {α : Type} {f : ConnID → α} {c : ConnID} {x : α} {P : ConnID → α → Prop}
    (h : P c x) (c' : ConnID) :
    Function.update f c x c' = f c' ∨ P c' (Function.update f c x c') := by
  by_cases hc : c' = c
  · subst hc
    rw [Function.update_self]
    exact .inr h
  · exact .inl (Function.update_of_ne hc ..)

/-- A packet put at the end of one stream. -/
theorem mem_update_append {α : Type} {f : ConnID → List α} {c : ConnID} {x : α}
    {P : ConnID → α → Prop} (h : P c x) (c' : ConnID) :
    ∀ y ∈ Function.update f c (f c ++ [x]) c', y ∈ f c' ∨ P c' y := by
  intro y hy
  by_cases hc : c' = c
  · subst hc
    rw [Function.update_self, List.mem_append, List.mem_singleton] at hy
    rcases hy with hold | rfl
    · exact .inl hold
    · exact .inr h
  · rw [Function.update_of_ne hc] at hy
    exact .inl hy

/-- A packet taken from the front of one stream. -/
theorem mem_of_mem_update_tail {α : Type} {f : ConnID → List α} {c : ConnID} {x : α}
    {rest : List α} (hf : f c = x :: rest) (c' : ConnID) :
    ∀ y ∈ Function.update f c rest c', y ∈ f c' := by
  intro y hy
  by_cases hc : c' = c
  · subst hc
    rw [Function.update_self] at hy
    rw [hf]
    exact List.mem_cons_of_mem x hy
  · rwa [Function.update_of_ne hc] at hy

theorem stage_setCommand {k : Nat} {stage : Stage} {k' : Nat} {stage' : Stage}
    (h : (s.setCommand k stage).commands k' = some stage') :
    s.commands k' = some stage' ∨ stage = stage' := by
  change Function.update s.commands k (some stage) k' = _ at h
  by_cases hk : k' = k
  · subst hk
    rw [Function.update_self, Option.some.injEq] at h
    exact .inr h
  · rw [Function.update_of_ne hk] at h
    exact .inl h

/-- Requests of the orchestrator that move on make no new call. -/
theorem calls_old {kind : ConnKind} {reqs reqs' : Requests}
    {b : PendingTable.Action ConnID String Packet} (h : Requests.step kind reqs b = some reqs')
    (hb : ∀ k c key, b ≠ .start k c key) {k : Nat} {call : PendingTable.Call ConnID String Packet}
    (hcall : reqs'.calls k = some call) :
    ∃ call', reqs.calls k = some call' ∧ call'.conn = call.conn ∧ call'.key = call.key :=
  (PendingTable.step_calls_old h hcall).resolve_right (hb k call.conn call.key)

theorem read_old {kind : ConnKind} {reqs reqs' : Requests}
    {b : PendingTable.Action ConnID String Packet} (h : Requests.step kind reqs b = some reqs')
    (hb : ∀ c p, b ≠ .read c p) {c : ConnID} {p : Packet} (hp : p ∈ reqs'.read c) :
    p ∈ reqs.read c :=
  (PendingTable.step_read_old h hp).resolve_right (hb c p)

theorem inner_ne {b : PendingTable.Action ConnID String Packet} (hb : inner b = true) :
    (∀ k c key, b ≠ .start k c key) ∧ ∀ c p, b ≠ .read c p := by
  constructor
  · rintro k c key rfl
    cases hb
  · rintro c p rfl
    cases hb

/-! ### The master's loop -/

theorem received_unmarshal (i : Issue) :
    OrchestratorCommand.unmarshal i.cmd.marshal = some i.received := by
  obtain ⟨target, masterID, nodeID, command⟩ := i
  have hround := OrchestratorCommand.unmarshal_marshal nodeID (command.getD .null)
  cases command with
  | none => exact hround
  | some v => exact hround

theorem Content.commanded (hs : Content ttl masterOf s) {c : ConnID} {k : Nat} {i : Issue}
    {id : String} (h : Commanded s c k i id) : i.OK ttl ∧ trimSpace id = id := by
  obtain ⟨⟨conns, hk⟩, call, hcall, rfl, rfl⟩ := h
  obtain ⟨i', conns', hk', hi, -, htrim⟩ := hs.calls k call hcall
  obtain ⟨rfl, -⟩ : i = i' ∧ conns = conns' := by
    simpa using hk.symm.trans hk'
  exact ⟨hi, htrim⟩

/-- A command packet is decoded to the command it was made of. -/
theorem Content.onPacket (hs : Content ttl masterOf s) {c : ConnID} {packet : Packet}
    {cause : Option Nat} (hd : DownOK s c (packet, cause)) :
    LoopOK s c (onPacket packet cause) := by
  unfold Tiers.onPacket
  split
  · trivial
  · trivial
  · next cmd hcmd =>
    obtain ⟨htype, hdec⟩ := Master.dispatch_command hcmd
    rcases hd with hne | ⟨k, i, hk, hcommanded, hpayload⟩
    · exact absurd htype hne
    · -- what the orchestrator marshalled is what the master decodes
      have hok := decodePayload_some hpayload (received_unmarshal i)
      obtain rfl : cmd = i.received := Except.ok.inj (hdec.symm.trans hok)
      have hnode : i.received.nodeID ≠ "" := (hs.commanded hcommanded).1.nodeID
      rw [if_neg hnode]
      exact ⟨k, i, hk, hcommanded, rfl⟩

/-- A reply that is explained may be written. -/
theorem Content.replying (hs : Content ttl masterOf s) {c : ConnID} {k : Nat} {i : Issue}
    {id : String} (h : Commanded s c k i id) {reply : CommandReply}
    (hreply : Explained s k i reply) : LoopOK s c (replying (Master.replyPacket id reply)) := by
  rw [Master.replyPacket_ok, (hs.commanded h).2]
  exact .inr ⟨k, i, reply, h, rfl, hreply⟩

theorem lookupNode_error {nodes : Master.Registry} {id err : String}
    (h : Master.lookupNode nodes id = .error err) :
    err ∈ ["node id is empty", "node not connected"] := by
  unfold Master.lookupNode at h
  split at h
  · cases h
    simp
  · split at h
    · cases h
      simp
    · cases h

theorem Content.onForwarding (hs : Content ttl masterOf s) {c : ConnID} {cause : Option Nat}
    {id : String} {cmd : OrchestratorCommand} (hl : LoopOK s c (.forwarding cause id cmd))
    (nodes : Master.Registry) : LoopOK s c (onForwarding nodes cause id cmd) := by
  obtain ⟨k, i, hk, hcommanded, rfl⟩ := hl
  unfold Tiers.onForwarding
  rw [Master.nodeCommandPacket_ok]
  split
  · next err hcmd => cases hcmd
  · next cmdPacket hcmd =>
    obtain rfl := Except.ok.inj hcmd
    split
    · next err herr =>
      -- not in the registry: the master reports the error itself
      refine hs.replying hcommanded ⟨rfl, .inr ⟨rfl, rfl, .inl ?_⟩⟩
      have := lookupNode_error herr
      simp only [List.mem_cons, List.not_mem_nil, or_false] at this
      rcases this with rfl | rfl
      · simp [errorTexts, Master.nodeReply]
      · simp [errorTexts, Master.nodeReply]
    · next n hn => exact ⟨k, i, hk, hcommanded, rfl, rfl, hn⟩

/-- What the node replied is looked up under the request's key, so it was
made for this request. -/
theorem Content.slaveReply (hs : Content ttl masterOf s) (hnode : PendingTable.Inv replyKey s.node)
    {j : Nat} {call : PendingTable.Call ConnID String Packet}
    {u : PendingTable.Tagged ConnID Packet} (hcall : s.node.calls j = some call)
    (hpc : call.pc = .returned (.reply u)) (htype : u.packet.type = packetNodeCommandReply) :
    ∃ reply : CommandReply, u.packet.payload = some reply.marshal ∧ SlaveReply s j reply := by
  obtain ⟨-, hread, hkey⟩ := hnode.reply_read hcall hpc
  rcases hs.nodeRead _ _ (List.mem_of_getElem? hread) with hne | ⟨j', call', reply, hcall',
    hreply, hpayload, hslave⟩
  · exact absurd htype hne
  · -- the packet names its request by a key that no other request has
    obtain rfl : j' = j := by
      refine hnode.keys j' j call' call hcall' hcall ?_
      rw [← hreply, (replyKey_eq_some.mp hkey).2]
    exact ⟨reply, hpayload, hslave⟩

theorem explained_of_slaveReply {j k : Nat} {i : Issue} {r : NodeRequest} {l : Lookup}
    {reply : CommandReply} (hr : s.requests[j]? = some r) (hl : r.lookup = some l)
    (hk : l.cause = some k) (h : SlaveReply s j reply) :
    Explained s k i { reply with nodeID := i.cmd.nodeID } := by
  rcases h with ⟨v, result, hv, rfl, hres, rfl⟩ | ⟨hstatus, hout, htext⟩
  · have hcause : s.cause v = some k := by
      rw [State.cause, State.lookup, hr, Option.bind_some, hl, Option.bind_some, hk]
    exact ⟨rfl, .inl ⟨v, result, hv, hcause, hres, rfl, rfl, rfl⟩⟩
  · refine ⟨rfl, .inr ⟨hstatus, hout, .inl ?_⟩⟩
    exact List.mem_append_left (errorTexts.drop 2) htext

/-- The master's reply for a request that has ended. -/
theorem Content.nodeReply (hs : Content ttl masterOf s) (hnode : PendingTable.Inv replyKey s.node)
    {j k : Nat} {i : Issue} {r : NodeRequest} {l : Lookup}
    {call : PendingTable.Call ConnID String Packet} {out : PendingTable.Outcome ConnID Packet}
    (hr : s.requests[j]? = some r) (hl : r.lookup = some l) (hk : l.cause = some k)
    (hcall : s.node.calls j = some call) (hpc : call.pc = .returned out) (err : String) :
    Explained s k i (Master.nodeReply i.cmd.nodeID (nodeResult err out)) := by
  cases out with
  | timeout => exact ⟨rfl, .inr ⟨rfl, rfl, .inl (by simp [errorTexts, nodeResult, Master.nodeReply])⟩⟩
  | writeError =>
    -- its text is the operating system's, so the request is named instead
    have hcause : r.cause = some k := by
      rw [NodeRequest.cause, hl, Option.bind_some, hk]
    exact ⟨rfl, .inr ⟨rfl, rfl, .inr ⟨j, r, call, hr, hcause, hcall, hpc⟩⟩⟩
  | reply u =>
    simp only [nodeResult, Master.nodeReply]
    split
    · exact ⟨rfl, .inr ⟨rfl, rfl, .inl (by simp [errorTexts])⟩⟩
    · next htype =>
      obtain ⟨reply, hpayload, hslave⟩ := hs.slaveReply hnode hcall hpc (not_not.mp htype)
      rw [decodePayload_some hpayload (CommandReply.unmarshal_marshal reply)]
      exact explained_of_slaveReply hr hl hk hslave

/-! ### The slaves -/

/-- The packet of a request reaches its handler as the master wrote it. -/
theorem slaveOK_of_nodeDown {n : ConnID} {packet : Packet} {j : Nat}
    (hd : NodeDownOK s n (packet, j)) :
    SlaveOK s n (match Slave.packetHandlers packet.type with
      | none => .reading
      | some h => .handling h j packet) := by
  cases hh : Slave.packetHandlers packet.type with
  | none => trivial
  | some h => exact ⟨hd, hh⟩

theorem slaveReplying_ok {n j : Nat} {call : PendingTable.Call ConnID String Packet}
    {reply : CommandReply} (hcall : s.node.calls j = some call)
    (htrim : trimSpace call.key = call.key) (hreply : SlaveReply s j reply) :
    SlaveOK s n (slaveReplying (Slave.writeCommandReply call.key reply)) := by
  rw [Slave.writeCommandReply_ok, htrim]
  exact .inr ⟨j, call, reply, hcall, rfl, rfl, hreply⟩

theorem slaveReplying_heartbeat_ok (n : ConnID) (packetID : String) (heartbeat : Json) :
    SlaveOK s n (slaveReplying (newReply packetHeartbeatReply packetID (some heartbeat))) := by
  have htype : trimSpace packetHeartbeatReply ≠ "" := by decide
  have hne : packetHeartbeatReply ≠ packetNodeCommandReply := by decide
  rw [newReply_ok htype]
  exact .inl hne

/-! ### One step -/

theorem changes_setLoop {c : ConnID} {l : Loop} (h : LoopOK s c l) :
    Changes ttl masterOf s (s.setLoop c l) := by
  have hgrows : Extends s (s.setLoop c l) := {}
  exact { grows := hgrows, loop := update_cases (h.mono hgrows) }

theorem changes_setSlave {n : ConnID} {l : Slave} (h : SlaveOK s n l) :
    Changes ttl masterOf s (s.setSlave n l) := by
  have hgrows : Extends s (s.setSlave n l) := {}
  exact { grows := hgrows, slave := update_cases (h.mono hgrows) }

/-- A new request to a node: the call is the request's own. -/
theorem nodeCalls_start {n : ConnID} {random : Bytes} {r : NodeRequest} {node : Requests}
    (hn : Requests.step .nodeConn s.node (.start s.requests.length n (newID random)) = some node)
    (hr : t.requests = s.requests ++ [r])
    (hlookup : ∀ l, r.lookup = some l → Master.lookupNode l.nodes l.nodeID = .ok n) {j : Nat}
    {call : PendingTable.Call ConnID String Packet} (hcall : node.calls j = some call) :
    (∃ call', s.node.calls j = some call' ∧ call'.conn = call.conn ∧ call'.key = call.key) ∨
      NodeCallOK t j call.conn call.key := by
  rcases PendingTable.step_calls_old hn hcall with hold | hnew
  · exact .inl hold
  · obtain ⟨rfl, rfl, hkey⟩ := PendingTable.Action.start.inj hnew
    refine .inr ⟨r, ?_, ?_, hlookup⟩
    · rw [hr, List.getElem?_concat_length]
    · rw [← hkey, trimSpace_newID]

theorem answerPacket_type (error : Option String) :
    (answerPacket error).type ≠ packetOrchCommand := by
  have hok : packetAuthOK ≠ packetOrchCommand := by decide
  have herror : packetError ≠ packetOrchCommand := by decide
  cases error with
  | none => exact hok
  | some text => exact herror

theorem step_changes (hs : Content ttl masterOf s) (hnode : PendingTable.Inv replyKey s.node)
    (h : Step ttl masterOf s a t) : Changes ttl masterOf s t := by
  have hgrows := step_extends h
  cases h with
  | tables => exact { grows := hgrows }
  | refused hk =>
    exact { grows := hgrows,
            selected := fun k' i h => (stage_setCommand h).imp id nofun,
            found := fun k' i conns c h => (stage_setCommand h).imp id nofun }
  | @selected _ k i hk hi =>
    refine { grows := hgrows, selected := fun k' i' h => (stage_setCommand h).imp id ?_,
             found := fun k' i conns c h => (stage_setCommand h).imp id nofun }
    intro heq
    exact Stage.selected.inj heq ▸ hi
  | @reached k i c hk hc =>
    refine { grows := hgrows, selected := fun k' i' h => (stage_setCommand h).imp id nofun,
             found := fun k' i' conns c' h => (stage_setCommand h).imp id ?_ }
    intro heq
    obtain ⟨rfl, rfl, rfl⟩ := Stage.found.inj heq
    exact ⟨hs.selected k _ hk, hc⟩
  | @request k random i conns c orch hk ho =>
    -- the call is made for the issue that the lookup found
    obtain ⟨hi, hc⟩ := hs.found k i conns c hk
    refine { grows := hgrows, selected := fun k' i' h => (stage_setCommand h).imp id nofun,
             found := fun k' i' conns' c' h => (stage_setCommand h).imp id nofun,
             calls := ?_, read := fun c' p hp => .inl (read_old ho nofun hp) }
    intro k' call hcall
    rcases PendingTable.step_calls_old ho hcall with hold | hnew
    · exact .inl hold
    · obtain ⟨rfl, rfl, hkey⟩ := PendingTable.Action.start.inj hnew
      refine .inr ⟨i, conns, Function.update_self .., hi, hc, ?_⟩
      rw [← hkey, trimSpace_newID]
  | @write k ok i conns call orch hk hcall ho =>
    refine { grows := hgrows, calls := fun k' call' h => .inl (calls_old ho nofun h),
             read := fun c p hp => .inl (read_old ho nofun hp), down := ?_ }
    cases ok with
    | false => exact fun _ _ he => .inl he
    | true =>
      -- the packet carries the command and the call's own ID
      obtain ⟨call', hcall', hconn, hkey, -⟩ := hgrows.orch k call hcall
      exact mem_update_append (.inr ⟨k, i, rfl, ⟨⟨conns, hk⟩, call', hcall', hconn, hkey⟩, rfl⟩)
  | orch hb ho =>
    exact { grows := hgrows, calls := fun k call h => .inl (calls_old ho (inner_ne hb).1 h),
            read := fun c p hp => .inl (read_old ho (inner_ne hb).2 hp) }
  | @orchRead c packet rest orch hup ho =>
    refine { grows := hgrows, calls := fun k call h => .inl (calls_old ho nofun h),
             up := fun c' p hp => .inl (mem_of_mem_update_tail hup c' p hp), read := ?_ }
    intro c' p hp
    rcases PendingTable.step_read_old ho hp with hold | hnew
    · exact .inl hold
    · -- what is read now was under way
      obtain ⟨rfl, rfl⟩ := PendingTable.Action.read.inj hnew
      exact .inr ((hs.up _ _ (hup ▸ List.mem_cons_self)).mono hgrows)
  | answer =>
    exact { grows := hgrows, down := mem_update_append (.inl (answerPacket_type _)) }
  | update hp => exact { grows := hgrows, up := mem_update_append (.inl hp) }
  | @loopRead c packet cause rest hloop hdown =>
    have hd := hs.down c (packet, cause) (hdown ▸ List.mem_cons_self)
    exact { grows := hgrows, loop := update_cases ((hs.onPacket hd).mono hgrows),
            down := fun c' e he => .inl (mem_of_mem_update_tail hdown c' e he) }
  | handOver hloop => exact changes_setLoop trivial
  | @lookupNode c cause packetID cmd hloop =>
    exact changes_setLoop (hs.onForwarding (hs.loop_eq hloop) _)
  | @forward c random cause packetID nodeID cmdPacket nodes n node hloop hn =>
    obtain ⟨k, i, hk, hcommanded, hnodeID, hpayload, hlookup⟩ := hs.loop_eq hloop
    -- the new request records the lookup that led to it
    refine { grows := hgrows,
             nodeCalls := fun j call h => nodeCalls_start hn rfl ?_ h,
             nodeRead := fun n p hp => .inl (read_old hn nofun hp),
             requests := ?_, loop := update_cases ?_ }
    · exact ⟨_, _, k, i, List.getElem?_concat_length, rfl, hk, hcommanded.mono hgrows, hnodeID⟩
    · intro r hr
      rcases List.mem_append.mp hr with hold | hnew
      · exact .inl hold
      · obtain rfl := List.mem_singleton.mp hnew
        exact .inr ⟨k, i, c, packetID, hk, hcommanded.mono hgrows, rfl, hnodeID, hpayload⟩
    · intro l hl
      obtain rfl := Option.some.inj hl
      exact hlookup
  | @heartbeat n random packet node hp hn =>
    refine { grows := hgrows,
             nodeCalls := fun j call h => nodeCalls_start hn rfl (fun l hl => by cases hl) h,
             nodeRead := fun n p hp => .inl (read_old hn nofun hp), requests := ?_ }
    intro r hr
    rcases List.mem_append.mp hr with hold | hnew
    · exact .inl hold
    · obtain rfl := List.mem_singleton.mp hnew
      exact .inr hp
  | @nodeWrite j ok r call node hr hcall hn =>
    refine { grows := hgrows, nodeCalls := fun j call h => .inl (calls_old hn nofun h),
             nodeRead := fun n p hp => .inl (read_old hn nofun hp), nodeDown := ?_ }
    cases ok with
    | false => exact fun _ _ he => .inl he
    | true =>
      obtain ⟨call', hcall', hconn, hkey, -⟩ := hgrows.node j call hcall
      exact mem_update_append ⟨r, call', hr, hcall', hconn, by rw [hkey]⟩
  | node hb hn =>
    exact { grows := hgrows, nodeCalls := fun k call h => .inl (calls_old hn (inner_ne hb).1 h),
            nodeRead := fun c p hp => .inl (read_old hn (inner_ne hb).2 hp) }
  | @nodeRead n packet rest node hup hn =>
    refine { grows := hgrows, nodeCalls := fun k call h => .inl (calls_old hn nofun h),
             nodeUp := fun n' p hp => .inl (mem_of_mem_update_tail hup n' p hp), nodeRead := ?_ }
    intro n' p hp
    rcases PendingTable.step_read_old hn hp with hold | hnew
    · exact .inl hold
    · obtain ⟨rfl, rfl⟩ := PendingTable.Action.read.inj hnew
      exact .inr ((hs.nodeUp _ _ (hup ▸ List.mem_cons_self)).mono hgrows)
  | @nodeReturn c err packetID nodeID j call out hloop hcall hpc =>
    obtain ⟨r, l, k, i, hr, hlookup, hk, hcommanded, rfl⟩ := hs.loop_eq hloop
    exact changes_setLoop
      (hs.replying hcommanded (hs.nodeReply hnode hr hlookup hk hcall hpc err))
  | @masterReply c reply packetID hloop =>
    -- no command in transit is for a master itself
    exact (hs.loop_eq hloop).elim
  | @loopReply c ok reply hloop =>
    have hl := hs.loop_eq hloop
    refine { grows := hgrows, loop := update_cases trivial, up := ?_ }
    cases ok with
    | false => exact fun _ _ hp => .inl hp
    | true => exact mem_update_append (UpOK.mono hgrows hl)
  | @slaveRead n packet j rest hslave hdown =>
    have hd := hs.nodeDown n (packet, j) (hdown ▸ List.mem_cons_self)
    exact { grows := hgrows, slave := update_cases ((slaveOK_of_nodeDown hd).mono hgrows),
            nodeDown := fun n' e he => .inl (mem_of_mem_update_tail hdown n' e he) }
  | slaveHeartbeat hslave => exact changes_setSlave (slaveReplying_heartbeat_ok _ _ _)
  | @slaveRefused n heartbeat j packet reply hslave hreply =>
    obtain ⟨⟨r, call, hr, hcall, hconn, rfl⟩, htype⟩ := hs.slave_eq hslave
    obtain ⟨-, -, htrim, -⟩ := hs.nodeCalls j call hcall
    exact changes_setSlave
      (slaveReplying_ok hcall htrim (.inr (Slave.commandHandler_error hreply)))
  | @invoke n heartbeat j packet action cmd hslave hcmd =>
    obtain ⟨⟨r, call, hr, hcall, hconn, rfl⟩, htype⟩ := hs.slave_eq hslave
    -- the new invocation is of the request whose packet is being handled
    refine { grows := hgrows, slave := update_cases ?_, invocations := ?_ }
    · exact ⟨⟨call, hcall, rfl⟩, _, List.mem_append_right _ (List.mem_singleton_self _), rfl⟩
    · intro v hv
      rcases List.mem_append.mp hv with hold | hnew
      · exact .inl hold
      · obtain rfl := List.mem_singleton.mp hnew
        exact .inr ⟨r, call, hr, hcall, hconn, Slave.packetHandlers_nodeCommand htype, hcmd⟩
  | @handlerReturn n result j packetID hslave =>
    obtain ⟨⟨call, hcall, rfl⟩, v, hv, hj⟩ := hs.slave_eq hslave
    obtain ⟨-, -, htrim, -⟩ := hs.nodeCalls j call hcall
    refine { grows := hgrows, slave := update_cases (slaveReplying_ok hcall htrim (.inl ?_)) }
    exact ⟨v, result, hv, hj, List.mem_append_right _ (List.mem_singleton_self _), rfl⟩
  | @slaveReply n ok reply hslave =>
    have hl := hs.slave_eq hslave
    refine { grows := hgrows, slave := update_cases ?_, nodeUp := ?_ }
    · cases ok <;> trivial
    · cases ok with
      | false => exact fun _ _ hp => .inl hp
      | true => exact mem_update_append (NodeUpOK.mono hgrows hl)

-- ---------------------------------------------------------------------------
-- Whole runs
-- ---------------------------------------------------------------------------

structure Inv (ttl : Int) (masterOf : ConnID → Nat) (s : State) : Prop where
  orch : PendingTable.Inv replyKey s.orch
  node : PendingTable.Inv replyKey s.node
  content : Content ttl masterOf s

theorem inv_init : Inv ttl masterOf init :=
  ⟨PendingTable.inv_init, PendingTable.inv_init, content_init⟩

theorem freshKeys_of_inner {b : PendingTable.Action ConnID String Packet} (hb : inner b = true)
    (reqs : Requests) : PendingTable.FreshKeys reqs b := by
  cases b with
  | start k c key => cases hb
  | _ => trivial

theorem orch_step (hs : PendingTable.Inv replyKey s.orch) (hok : FreshIDs s a)
    (h : Step ttl masterOf s a t) : PendingTable.Inv replyKey t.orch := by
  cases h with
  | @request k random i conns c orch hk ho => exact PendingTable.inv_step hs (hok c) ho
  | write _ _ ho => exact PendingTable.inv_step hs (by trivial) ho
  | orch hb ho => exact PendingTable.inv_step hs (freshKeys_of_inner hb _) ho
  | orchRead _ ho => exact PendingTable.inv_step hs (by trivial) ho
  | _ => exact hs

theorem node_step (hs : PendingTable.Inv replyKey s.node) (hok : FreshIDs s a)
    (h : Step ttl masterOf s a t) : PendingTable.Inv replyKey t.node := by
  cases h with
  | @forward c random cause packetID nodeID cmdPacket nodes n node hloop hn =>
    exact PendingTable.inv_step hs (hok n) hn
  | heartbeat _ hn => exact PendingTable.inv_step hs (by exact hok) hn
  | nodeWrite _ _ hn => exact PendingTable.inv_step hs (by trivial) hn
  | node hb hn => exact PendingTable.inv_step hs (freshKeys_of_inner hb _) hn
  | nodeRead _ hn => exact PendingTable.inv_step hs (by trivial) hn
  | _ => exact hs

theorem inv_step (hs : Inv ttl masterOf s) (hok : FreshIDs s a)
    (h : step ttl masterOf s a = some t) : Inv ttl masterOf t where
  orch := orch_step hs.orch hok (step_cases h)
  node := node_step hs.node hok (step_cases h)
  content := hs.content.changes (step_changes hs.content hs.node (step_cases h))

theorem inv_run {as : List Action} (hok : Machine.Meets (step ttl masterOf) FreshIDs init as)
    (hrun : Machine.run (step ttl masterOf) init as = some s) : Inv ttl masterOf s :=
  Machine.run_invariant_of_meets (fun _ _ _ hs hok h => inv_step hs hok h) inv_init hok hrun

-- ---------------------------------------------------------------------------
-- What the callers and the nodes can rely on
-- ---------------------------------------------------------------------------

/-- The reply that `sendCommandWait` returns was made for its own command. -/
theorem Inv.reply (hs : Inv ttl masterOf s) {k : Nat}
    {call : PendingTable.Call ConnID String Packet} {u : PendingTable.Tagged ConnID Packet}
    {reply : CommandReply} (hcall : s.orch.calls k = some call)
    (hpc : call.pc = .returned (.reply u))
    (hreply : Orchestrator.commandReply call.key u.packet = .ok reply) :
    ∃ i conns, s.commands k = some (.requesting i conns) ∧ Explained s k i reply := by
  obtain ⟨-, hread, hkey⟩ := hs.orch.reply_read hcall hpc
  obtain ⟨hne, hkey⟩ := replyKey_eq_some.mp hkey
  obtain ⟨-, -, hdec⟩ := Orchestrator.commandReply_ok hreply
  rcases hs.content.read _ _ (List.mem_of_getElem? hread) with hempty | ⟨k', i, reply', hcommanded,
    hpayload, hexplained⟩
  · exact absurd hempty hne
  · obtain ⟨⟨conns, hk⟩, call', hcall', -, hkey'⟩ := hcommanded
    -- the key names one call
    obtain rfl : k' = k := hs.orch.keys k' k call' call hcall' hcall (hkey'.trans hkey)
    have hok := decodePayload_some hpayload (CommandReply.unmarshal_marshal reply')
    obtain rfl : reply' = reply := Except.ok.inj (hok.symm.trans hdec)
    exact ⟨i, conns, hk, hexplained⟩

/-- A handler is called for a command, on the connection the command's
master found under the command's node ID, with the command. -/
theorem Inv.invocation (hs : Inv ttl masterOf s) {v : Invocation} (hv : v ∈ s.invocations) :
    ∃ k i conns call l, s.cause v = some k ∧ s.commands k = some (.requesting i conns) ∧
      s.orch.calls k = some call ∧ s.lookup v = some l ∧ l.master = masterOf call.conn ∧
      Master.lookupNode l.nodes i.cmd.nodeID = .ok v.conn ∧
      Slave.commandHandler { type := packetNodeCommand, payload := i.received.command } =
        .ok (v.action, v.cmd) := by
  obtain ⟨r, ncall, hr, hncall, hconn, htype, hcmd⟩ := hs.content.invocations v hv
  have hrequest := hs.content.requests r (List.mem_of_getElem? hr)
  unfold RequestOK at hrequest
  split at hrequest
  · -- a heartbeat calls no command handler
    exact absurd (htype.symm.trans hrequest) (by decide)
  · next l hl =>
    obtain ⟨k, i, c, id, hk, ⟨⟨conns, hcommand⟩, call, hcall, rfl, -⟩, hmaster, hnodeID,
      hpayload⟩ := hrequest
    obtain ⟨r', hr', -, hlookup⟩ := hs.content.nodeCalls v.request ncall hncall
    obtain rfl : r = r' := Option.some.inj (hr.symm.trans hr')
    have hfound := hlookup l hl
    rw [hnodeID, hconn] at hfound
    have hl' : s.lookup v = some l := by
      rw [State.lookup, hr, Option.bind_some, hl]
    refine ⟨k, i, conns, call, l, ?_, hcommand, hcall, hl', hmaster, hfound, ?_⟩
    · rw [State.cause, hl', Option.bind_some, hk]
    · rw [← hpayload, ← hcmd]
      rfl

end Centralisd.Tiers
