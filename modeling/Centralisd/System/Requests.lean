import Centralisd.Core.Packet
import Centralisd.Lib.PendingTable

/-!
# Centralisd — requests and replies on a connection

`sendRequest` and `resolveReply` of `nodeConn` (`src/master/nodes.go`) and
of `masterConn` (`src/orchestrator/tcp/server.go`). The two are one
algorithm, the one of `PendingTable`: a request goes into `pend` under its
packet ID, a packet that is read is looked up under its `ReplyTo`. They
differ in one place: when the write fails, `nodeConn` removes the entry
again and `masterConn` returns at once.

* `replies_correlated` — whatever the peers send, a call that returns a
  packet returns its own reply, read on its own connection; a packet
  completes at most one call; and the reader never blocks at its send;
* `noStale_iff_leavesNothing` — no entry of `pend` outlives its call exactly
  in the runs in which no write of a `masterConn` fails with its entry still
  in `pend`.
-/

namespace Centralisd

open PendingTable

/-- The two types of connection that carry requests. -/
inductive ConnKind where
  /-- a slave's connection, on the master -/
  | nodeConn
  /-- a master's connection, on the orchestrator -/
  | masterConn
  deriving DecidableEq, Repr

/-- What `resolveReply` looks a packet up under; an empty `ReplyTo` is no
reply. -/
def replyKey (packet : Packet) : Option String :=
  if packet.replyTo = "" then none else some packet.replyTo

/-- The write-error branch of `sendRequest` deletes the entry. -/
def ConnKind.deletesOnWriteError : ConnKind → Bool
  | .nodeConn => true
  | .masterConn => false

/-- The requests and readers of any number of connections. -/
abbrev Requests := PendingTable.State Nat String Packet

abbrev Requests.step (kind : ConnKind) : Requests → PendingTable.Action Nat String Packet →
    Option Requests :=
  PendingTable.step replyKey kind.deletesOnWriteError

theorem replyKey_eq_some {packet : Packet} {id : String} :
    replyKey packet = some id ↔ packet.replyTo ≠ "" ∧ packet.replyTo = id := by
  unfold replyKey
  by_cases h : packet.replyTo = ""
  · simp [h]
  · simp [h]

/-- **Request/reply correlation.** For either type of connection, any number
of connections and of concurrent `sendRequest` calls with distinct packet
IDs, any packets read and any interleaving, in every reachable state:

1. a call that has returned a packet returned one that was read on its own
   connection and whose `ReplyTo` is its own ID;
2. two calls that returned the same packet read are one call;
3. a channel has seen at most one send, and a reader that is at
   `ch <- reply` can always make that step. -/
theorem replies_correlated (kind : ConnKind) (as : List (PendingTable.Action Nat String Packet))
    (s : Requests) (hfresh : Machine.Meets (Requests.step kind) FreshKeys init as)
    (hrun : Machine.run (Requests.step kind) init as = some s) :
    (∀ k call t, s.calls k = some call → call.pc = .returned (.reply t) →
      t.conn = call.conn ∧ (s.read call.conn)[t.seq]? = some t.packet ∧
        t.packet.replyTo = call.key) ∧
    (∀ k k' call call' t t', s.calls k = some call → s.calls k' = some call' →
      call.pc = .returned (.reply t) → call'.pc = .returned (.reply t') →
      t.conn = t'.conn → t.seq = t'.seq → k = k') ∧
    (∀ k, s.sends k ≤ 1) ∧
    (∀ c k t, s.reader c = .sending k t → (Requests.step kind s (.send c)).isSome) := by
  have hs := PendingTable.inv_run hfresh hrun
  refine ⟨?_, ?_, hs.sends, fun c k t h => hs.send_enabled h⟩
  · intro k call t hcall hret
    obtain ⟨hconn, hmem, hkey⟩ := hs.reply_read hcall hret
    exact ⟨hconn, hmem, (replyKey_eq_some.mp hkey).2⟩
  · intro k k' call call' t t' hcall hcall' hret hret' hconn hseq
    exact hs.reply_unique hcall hcall' hret hret' hconn hseq

/-- A request that is answered twice: the second reply finds nothing. -/
def answeredTwice : List (PendingTable.Action Nat String Packet) :=
  let reply : Packet := { type := packetNodeCommandReply, replyTo := "a" }
  [.start 0 0 "a", .write 0 true, .read 0 reply, .lookup 0, .send 0, .read 0 reply, .lookup 0,
    .receive 0]

theorem answeredTwice_freshKeys (kind : ConnKind) :
    Machine.Meets (Requests.step kind) FreshKeys init answeredTwice := by
  refine ⟨fun k call h => absurd h (by simp [init]), fun _ _ => ?_⟩
  -- no other step starts a call
  exact ⟨trivial, fun _ _ => ⟨trivial, fun _ _ => ⟨trivial, fun _ _ => ⟨trivial, fun _ _ =>
    ⟨trivial, fun _ _ => ⟨trivial, fun _ _ => ⟨trivial, fun _ _ => trivial⟩⟩⟩⟩⟩⟩⟩

/-- The answered call has returned the first reply, by its `ReplyTo`. -/
theorem answeredTwice_correlated :
    ∃ s call t, Machine.run (Requests.step .nodeConn) init answeredTwice = some s ∧
      s.calls 0 = some call ∧ call.pc = .returned (.reply t) ∧ t.seq = 0 ∧
      t.packet.replyTo = call.key := by
  refine ⟨_, _, _, rfl, rfl, rfl, rfl, ?_⟩
  exact ((replies_correlated .nodeConn answeredTwice _ (answeredTwice_freshKeys _) rfl).1 0 _ _
    rfl rfl).2.2

/-! ## Stale requests -/

/-- The ID of a call that has returned is no key of `pend`, every key of
`pend` is the ID of a call that has not, and on each connection the keys are
no more than the calls in flight. -/
structure NoStale (s : Requests) : Prop where
  returned : ∀ k call out, s.calls k = some call → call.pc = .returned out →
    s.pend call.conn call.key = none
  pending : ∀ c id k, s.pend c id = some k → ∃ call, s.calls k = some call ∧ call.conn = c ∧
    call.key = id ∧ ∀ out, call.pc ≠ .returned out
  size : ∀ c, {id | s.pend c id ≠ none}.encard ≤ {k | s.InFlight c k}.encard

theorem noStale_iff_owned {s : Requests} (hs : PendingTable.Inv replyKey s) :
    NoStale s ↔ Owned s := by
  constructor
  · intro h c id k hp
    obtain ⟨call, hcall, hconn, -, hout⟩ := h.pending c id k hp
    exact ⟨call, hcall, hconn, hout⟩
  · intro ho
    constructor
    · intro k call out hcall hret
      cases hp : s.pend call.conn call.key with
      | none => rfl
      | some k' =>
        obtain rfl := hs.pend_self hcall hp
        obtain ⟨call', hcall', -, hout⟩ := ho _ _ _ hp
        obtain rfl := Option.some.inj (hcall.symm.trans hcall')
        exact absurd hret (hout out)
    · intro c id k hp
      obtain ⟨-, call, hcall, hconn, hkey⟩ := hs.pend c id k hp
      obtain ⟨call', hcall', -, hout⟩ := ho c id k hp
      obtain rfl := Option.some.inj (hcall.symm.trans hcall')
      exact ⟨call, hcall, hconn, hkey, hout⟩
    · exact ho.encard_le hs

/-- **No stale requests.** For either type of connection, any number of
concurrent `sendRequest` calls with distinct packet IDs, any packets read and
any interleaving: no entry outlives its call in any state of the run if and
only if no write or flush of a `masterConn` fails while the entry of its call
is still in `pend`. -/
theorem noStale_iff_leavesNothing (kind : ConnKind)
    (as : List (PendingTable.Action Nat String Packet)) (s : Requests)
    (hfresh : Machine.Meets (Requests.step kind) FreshKeys init as)
    (hrun : Machine.run (Requests.step kind) init as = some s) :
    Machine.Holds (Requests.step kind) NoStale init as ↔
      Machine.Meets (Requests.step kind) (LeavesNothing kind.deletesOnWriteError) init as := by
  refine Machine.holds_iff_meets_of_meets (J := PendingTable.Inv replyKey)
    (fun s a t hs hfr hst => inv_step hs hfr hst) ?_ inv_init ?_ hfresh hrun
  · intro s a t hs hfr hP hst
    rw [noStale_iff_owned (inv_step hs hfr hst)]
    exact owned_step_iff hs ((noStale_iff_owned hs).mp hP) hst
  · exact (noStale_iff_owned inv_init).mpr owned_init

/-- A request whose write fails. -/
def failedWrite : List (PendingTable.Action Nat String Packet) := [.start 0 0 "a", .write 0 false]

theorem failedWrite_freshKeys (kind : ConnKind) :
    Machine.Meets (Requests.step kind) FreshKeys init failedWrite :=
  ⟨fun k call h => absurd h (by simp [init]), fun _ _ => ⟨trivial, fun _ _ => trivial⟩⟩

/-- On a `nodeConn` a failed write is cleaned up. -/
theorem noStale_iff_leavesNothing_nodeConn :
    Machine.Holds (Requests.step .nodeConn) NoStale init failedWrite := by
  refine (noStale_iff_leavesNothing .nodeConn failedWrite _ (failedWrite_freshKeys _) rfl).mpr ?_
  exact ⟨trivial, fun _ _ => ⟨fun h => absurd h (by decide), fun _ _ => trivial⟩⟩

/-- On a `masterConn` it leaves the entry of a call that has returned. -/
theorem failedWrite_stale :
    Machine.Meets (Requests.step .masterConn) FreshKeys init failedWrite ∧
    ∃ s call, Machine.run (Requests.step .masterConn) init failedWrite = some s ∧
      s.calls 0 = some call ∧ call.pc = .returned .writeError ∧ call.key = "a" ∧
      s.pend 0 "a" = some 0 ∧ ¬ NoStale s ∧
      ¬ Machine.Holds (Requests.step .masterConn) NoStale init failedWrite := by
  have hstale : ∀ s : Requests,
      Machine.run (Requests.step .masterConn) init failedWrite = some s → ¬ NoStale s := by
    rintro s hs h
    cases hs
    exact absurd (h.returned 0 _ .writeError rfl rfl) (by decide)
  refine ⟨failedWrite_freshKeys _, _, _, rfl, rfl, rfl, rfl, rfl, hstale _ rfl, fun h => ?_⟩
  exact hstale _ rfl (h.final rfl)

end Centralisd
