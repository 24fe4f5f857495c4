import Centralisd.Orchestrator.Integrity

/-!
# Centralisd — what the orchestrator answers

The packets `handleConn` (`src/orchestrator/tcp/server.go`) writes to a
master, against those it reads from it. A register or heartbeat packet is
answered by `auth.ok` or by an error, without the ID of what it answers, so a
master can tell the answers apart by their order alone.

`Conn` is the state of one connection, and `ConnStep` everything a step can
do to it, with what is written and with the requests that were pending when
`resolveReply` looked. `answers_in_order` puts the steps of a run together:
after the handshake a connection has been sent one answer for each packet
that was not a reply to a request pending at that moment, in the order in
which they were read, and `auth.ok` exactly for those that were stored.
-/

namespace Centralisd.Orchestrator

open Machine

variable {C : Crypto} {masterWhitelist : Whitelist}

/-- What became of a packet of the message loop. -/
inductive Fate where
  /-- handed to the `sendRequest` caller that waits for it -/
  | handed (packet : Packet)
  /-- refused by the `switch` -/
  | refused (packet : Packet) (text : String)
  /-- refused by `UpsertMaster` -/
  | rejected (packet : Packet) (mi : MasterInfo)
  | stored (packet : Packet) (entry : MasterEntry)

def Fate.packet : Fate → Packet
  | .handed p => p
  | .refused p _ => p
  | .rejected p _ => p
  | .stored p _ => p

/-- What is written for the packet. -/
def Fate.answer : Fate → List Packet
  | .handed _ => []
  | .refused _ text => [newError text]
  | .rejected _ _ => [newError "update rejected"]
  | .stored _ _ => [okPacket]

/-- The update of the store that the packet led to. -/
def Fate.update : Fate → Option (Packet × MasterEntry)
  | .stored p e => some (p, e)
  | _ => none

/-- It is what the checks of the message loop say, with the requests that
were pending: only a reply to one of them is handed over. -/
def Fate.Right (cr : Credentials) (pend : Finset String) : Fate → Prop
  | .handed p => resolves pend p = true
  | .refused p text =>
    resolves pend p = false ∧ checkMessage cr.hello.id cr.hello.cluster p = .error text
  | .rejected p mi =>
    resolves pend p = false ∧ checkMessage cr.hello.id cr.hello.cluster p = .ok mi
  | .stored p e =>
    resolves pend p = false ∧ checkMessage cr.hello.id cr.hello.cluster p = .ok e.toMasterInfo

/-- A packet that has been handled, and the requests that were pending on its
connection when `resolveReply` looked. -/
structure Handled where
  fate : Fate
  pend : Finset String

/-- What is pending on the connection when its handler calls `resolveReply`. -/
def lookup (c : ConnID) (s : State) : Action → List (Finset String)
  | .resolveReply c' => if c' = c then [s.pend c] else []
  | _ => []

structure Conn where
  phase : Option Phase
  sent : List Packet
  received : List Packet
  authed : Option Credentials
  /-- the updates made by its packets, latest first -/
  updates : List (Packet × MasterEntry)

def State.conn (s : State) (c : ConnID) : Conn where
  phase := s.phase c
  sent := s.sent c
  received := s.received c
  authed := s.authed c
  updates := (s.updates.filter fun u => u.conn = c).map fun u => (u.packet, u.entry)

/-- The moves that write nothing. -/
inductive Quiet : Option Phase → Phase → Prop
  | accept : Quiet none .hello
  | hello : Quiet (some .hello) .challenge
  | auth {challenge authHello} : Quiet (some (.auth challenge)) (.proof challenge authHello)
  | dropped {ph} (h : ph.rejectable = true) : Quiet (some ph) .returned
  | panic {challenge authHello} : Quiet (some (.proof challenge authHello)) .panicked
  | register {cr} : Quiet (some (.verified cr)) (.loop cr .reading)
  | allowed {cr p mi} :
      Quiet (some (.loop cr (.checking p mi))) (.loop cr (.stamping p mi))
  | now {cr p mi} (time : Int) :
      Quiet (some (.loop cr (.stamping p mi))) (.loop cr (.storing p ⟨mi, time⟩))
  | readError {cr} : Quiet (some (.loop cr .reading)) (.leaving cr)
  | unregister {cr} : Quiet (some (.leaving cr)) .returned

/-- Where in the loop a packet is done with, and how; at a lookup with what
it finds pending. -/
inductive Ends (cr : Credentials) : LoopPhase → List (Finset String) → Fate → Prop
  | handed {p pend} (h : resolves pend p = true) : Ends cr (.resolving p) [pend] (.handed p)
  | refused {p pend text} (hnone : resolves pend p = false)
      (h : checkMessage cr.hello.id cr.hello.cluster p = .error text) :
      Ends cr (.resolving p) [pend] (.refused p text)
  | rejected {p mi} : Ends cr (.checking p mi) [] (.rejected p mi)
  | stored {p e} : Ends cr (.storing p e) [] (.stored p e)

/-- Everything a step can do to one connection, with what its lookup finds
pending. -/
inductive ConnStep (k : Conn) : List (Finset String) → Conn → Prop
  | quiet {ph} (h : Quiet k.phase ph) : ConnStep k [] { k with phase := some ph }
  | reject {ph text} (hph : k.phase = some ph) (h : ph.rejectable = true) :
      ConnStep k [] { k with phase := some .returned, sent := k.sent ++ [newError text] }
  | challenge {challenge} (hph : k.phase = some .challenge) :
      ConnStep k [] { k with
        phase := some (.auth challenge), sent := k.sent ++ [challengePacket challenge] }
  | verify {challenge authHello} (sig)
      (hph : k.phase = some (.proof challenge authHello)) :
      ConnStep k [] { k with
        phase := some (.verified (credentials authHello challenge sig))
        sent := k.sent ++ [okPacket]
        authed := some (credentials authHello challenge sig) }
  | receive {cr p} (hph : k.phase = some (.loop cr .reading)) :
      ConnStep k [] { k with
        phase := some (.loop cr (.resolving p)), received := k.received ++ [p] }
  | update {cr p mi pend} (hph : k.phase = some (.loop cr (.resolving p)))
      (hnone : resolves pend p = false)
      (h : checkMessage cr.hello.id cr.hello.cluster p = .ok mi) :
      ConnStep k [pend] { k with phase := some (.loop cr (.checking p mi)) }
  | finish {cr point looked fate} (hph : k.phase = some (.loop cr point))
      (hends : Ends cr point looked fate) :
      ConnStep k looked { k with
        phase := some (.loop cr .reading)
        sent := k.sent ++ fate.answer
        updates := fate.update.toList ++ k.updates }

/-! ## The steps of the machine -/

theorem conn_move_self (s : State) (c : ConnID) (p : Phase) (out : List Packet) :
    (s.move c p out).conn c = { s.conn c with phase := some p, sent := s.sent c ++ out } := by
  simp [State.conn, State.move]

theorem conn_move_ne (s : State) {c c' : ConnID} (h : c' ≠ c) (p : Phase) (out : List Packet) :
    (s.move c p out).conn c' = s.conn c' := by
  simp [State.conn, State.move, h]

/-- A step of one handler: the other connections stay as they are. -/
structure Touches (c : ConnID) (looked : List (Finset String)) (s t : State) : Prop where
  others : ∀ c', c' ≠ c → t.conn c' = s.conn c'
  self : ConnStep (s.conn c) looked (t.conn c)

theorem Touches.move {s : State} {c : ConnID} {p : Phase} {out : List Packet}
    {looked : List (Finset String)}
    (h : ConnStep (s.conn c) looked { s.conn c with phase := some p, sent := s.sent c ++ out }) :
    Touches c looked s (s.move c p out) where
  others _ hne := conn_move_ne s hne p out
  self := by
    rw [conn_move_self]
    exact h

theorem Touches.quiet {s : State} {c : ConnID} {p : Phase} (h : Quiet (s.phase c) p) :
    Touches c [] s (s.move c p []) := by
  refine .move ?_
  rw [List.append_nil]
  exact .quiet (k := s.conn c) h

/-- A packet is done with, and its answer written. -/
theorem Touches.finish {s : State} {c : ConnID} {cr : Credentials} {point : LoopPhase}
    {looked : List (Finset String)} {fate : Fate} (hph : s.phase c = some (.loop cr point))
    (hends : Ends cr point looked fate) (hnone : fate.update = none) :
    Touches c looked s (s.move c (.loop cr .reading) fate.answer) := by
  refine .move ?_
  have hself : ConnStep (s.conn c) looked _ := .finish hph hends
  rw [hnone] at hself
  exact hself

/-- The packets of an accepted connection that have been handled account for
everything it was sent, for every lookup and for every update it made. -/
structure Accounts (k : Conn) (seen : List (Finset String)) (cr : Credentials)
    (handled : List Handled) (unanswered : List Packet) (looked : List (Finset String)) :
    Prop where
  sent : k.sent = challengePacket cr.challenge :: okPacket :: handled.flatMap (·.fate.answer)
  received : k.received = handled.map (·.fate.packet) ++ unanswered
  seen : seen = handled.map (·.pend) ++ looked
  updates : k.updates = (handled.filterMap (·.fate.update)).reverse
  right : ∀ h ∈ handled, h.fate.Right cr h.pend

theorem Accounts.finish {k : Conn} {seen looked new : List (Finset String)} {cr : Credentials}
    {handled : List Handled} {fate : Fate} {pend : Finset String}
    (hk : Accounts k seen cr handled [fate.packet] looked) (hlooked : looked ++ new = [pend])
    (hright : fate.Right cr pend) :
    Accounts { k with
      phase := some (.loop cr .reading)
      sent := k.sent ++ fate.answer
      updates := fate.update.toList ++ k.updates }
      (seen ++ new) cr (handled ++ [⟨fate, pend⟩]) [] [] where
  sent := by simp [hk.sent]
  received := by simp [hk.received]
  seen := by
    rw [hk.seen, List.append_assoc, hlooked]
    simp
  updates := by
    rw [hk.updates, List.filterMap_append, List.reverse_append]
    cases fate <;> rfl
  right := by
    intro h' hmem
    rcases List.mem_append.mp hmem with hold | hnew
    · exact hk.right h' hold
    · rw [List.mem_singleton.mp hnew]
      exact hright

end Centralisd.Orchestrator
