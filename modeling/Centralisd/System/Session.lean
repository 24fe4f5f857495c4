import Mathlib.Algebra.BigOperators.Group.List.Basic
import Mathlib.Algebra.Order.Group.Multiset
import Mathlib.Tactic.Abel
import Centralisd.Master.OrchestratorLoop
import Centralisd.Orchestrator.Commands
import Centralisd.System.Requests

/-!
# Centralisd — one session between a master and the orchestrator

After the handshake five kinds of thread share one connection: the master's
`connectLoop` with `sendPacketAndExpectAuthOK`, its `readOrchestratorLoop`
goroutine (joined to it by the unbuffered `respCh`), the orchestrator's
`handleConn` loop, and any number of `sendRequest` callers. Answers to
register and heartbeat packets carry no `reply_to` and travel on the stream
of the commands.

The two streams are lists of packets in flight. Each packet carries where it
comes from, which the source does not have: the number of the update it is or
answers, a command, a command's reply, or nothing the master asked for.

* `RepliesAwaited` — every `orchestrator.command.reply` that `handleConn`
  looks up still has its caller waiting;
* `answers_match` — in every run with `RepliesAwaited`, what
  `sendPacketAndExpectAuthOK` receives is the answer to the update it has
  just written; with a pinned identity that the store accepts, `connectLoop`
  never returns because of an answer;
* `lateReply_mismatch` — a caller that times out before its reply is looked
  up breaks both.
-/

namespace Centralisd.Session

-- ---------------------------------------------------------------------------
-- Threads and streams
-- ---------------------------------------------------------------------------

/-- Where a packet on its way to the orchestrator comes from. -/
inductive Sent where
  /-- the `n`-th register or heartbeat packet -/
  | update (n : Nat)
  /-- the reply to a command -/
  | reply
  deriving DecidableEq, Repr

/-- Where a packet on its way to the master comes from. -/
inductive Source where
  | command
  /-- the answer to the `n`-th register or heartbeat packet -/
  | answer (n : Nat)
  /-- the answer to anything else -/
  | stray
  deriving DecidableEq, Repr

/-- What an answer to a packet is. -/
def Sent.source : Sent → Source
  | .update n => .answer n
  | .reply => .stray

/-- Why `connectLoop` has returned. -/
inductive Failure where
  /-- `sendPacketAndExpectAuthOK` got an answer other than `auth.ok` -/
  | answer (text : String)
  | readError
  | writeError
  deriving DecidableEq, Repr

/-- Where `connectLoop` is. -/
inductive Main where
  /-- about to build the register packet -/
  | registering
  /-- in `sendPacketAndExpectAuthOK`, at the write -/
  | writing (packet : Packet)
  /-- in `sendPacketAndExpectAuthOK`, at the `select` -/
  | awaiting
  /-- at the `select` on the ticker -/
  | ticking
  | returned (failure : Failure)

/-- Where `readOrchestratorLoop` is. -/
inductive Reader where
  | reading
  /-- at `respCh <- packet` -/
  | offering (packet : Packet) (source : Source)
  /-- carrying out a command -/
  | handling (packet : Packet) (cmd : OrchestratorCommand)
  /-- returned, its error in `readErrCh` -/
  | ended

/-- Where the message loop of `handleConn` is. -/
inductive Handler where
  | reading
  /-- at the lookup of `resolveReply` -/
  | resolving (packet : Packet) (sent : Sent)
  /-- at `ch <- packet` -/
  | delivering
  /-- in `UpsertMaster` -/
  | upserting (mi : MasterInfo) (sent : Sent)
  | ended

structure State where
  main : Main
  reader : Reader
  handler : Handler
  /-- the orchestrator's callers on this connection, which is number 0 -/
  reqs : Requests
  /-- in flight to the orchestrator, next first -/
  up : List (Packet × Sent)
  /-- in flight to the master, next first -/
  down : List (Packet × Source)
  /-- how many updates `sendPacketAndExpectAuthOK` has written -/
  written : Nat
  /-- what it has received: after how many updates, and from where -/
  received : List (Nat × Source)

def init : State where
  main := .registering
  reader := .reading
  handler := .reading
  reqs := PendingTable.init
  up := []
  down := []
  written := 0
  received := []

inductive Action where
  /-- `connectLoop` builds its next packet -/
  | update (mi : MasterInfo)
  | writeUpdate (ok : Bool)
  /-- the rendezvous on `respCh` -/
  | handOver
  /-- a `select` of `connectLoop` takes the error from `readErrCh` -/
  | mainReadError
  | readerRead
  | readerError
  /-- the command is carried out and its reply written -/
  | readerReply (reply : CommandReply) (ok : Bool)
  | handlerRead
  | handlerError
  | handlerLookup
  | handlerSend
  | upsert (verdict : Orchestrator.Verdict)
  | callStart (k : Nat) (id : String)
  | callWrite (k : Nat) (cmd : OrchestratorCommand) (ok : Bool)
  | callTimeout (k : Nat)
  | callExpire (k : Nat)
  | callReceive (k : Nat)

-- ---------------------------------------------------------------------------
-- Steps
-- ---------------------------------------------------------------------------

def onUpdate (s : State) (packet : Except String Packet) : State :=
  match packet with
  | .ok p => { s with main := .writing p }
  | .error _ => { s with main := .returned .writeError }

def onHandOver (s : State) : Option State :=
  match s.main, s.reader with
  | .awaiting, .offering packet source =>
    some { s with
      main := match Master.expectAuthOK packet with
        | .ok _ => .ticking
        | .error text => .returned (.answer text)
      reader := .reading
      received := s.received ++ [(s.written, source)] }
  | _, _ => none

def onMainReadError (s : State) : Option State :=
  match s.main, s.reader with
  | .awaiting, .ended => some { s with main := .returned .readError }
  | .ticking, .ended => some { s with main := .returned .readError }
  | _, _ => none

def onReaderRead (s : State) : Option State :=
  match s.reader, s.down with
  | .reading, (packet, source) :: rest =>
    some { s with
      down := rest
      reader := match Master.dispatch packet with
        | .respond => .offering packet source
        | .ignore _ => .reading
        | .command cmd => .handling packet cmd }
  | _, _ => none

def onReaderReply (s : State) (reply : CommandReply) (ok : Bool) : Option State :=
  match s.reader with
  | .handling packet _ => match Master.replyPacket packet.id reply with
    | .error _ => some { s with reader := .reading }
    | .ok p => some { s with
        reader := .reading
        -- the result of the write is ignored
        up := if ok then s.up ++ [(p, .reply)] else s.up }
  | _ => none

/-- `resolveReply`; a packet it does not take goes to the `switch`. -/
def onHandlerLookup (authedMasterID authedClusterID : String) (s : State) : Option State :=
  match s.handler with
  | .resolving packet sent => (s.reqs.step .masterConn (.lookup 0)).map fun reqs =>
    if (s.reqs.awaited replyKey 0 packet).isSome then
      { s with reqs := reqs, handler := .delivering }
    else match Orchestrator.checkMessage authedMasterID authedClusterID packet with
      | .error e => { s with
          reqs := reqs
          handler := .reading
          down := s.down ++ [(newError e, sent.source)] }
      | .ok mi => { s with reqs := reqs, handler := .upserting mi sent }
  | _ => none

def onUpsert (s : State) (verdict : Orchestrator.Verdict) : Option State :=
  match s.handler with
  | .upserting mi sent =>
    some { s with
      handler := .reading
      down := s.down ++ [(if mi.id ≠ "" ∧ verdict.passes = true then Orchestrator.okPacket
        else newError "update rejected", sent.source)] }
  | _ => none

def step (authedMasterID authedClusterID : String) (s : State) : Action → Option State
  | .update mi => match s.main with
    | .registering => some (onUpdate s (Master.registerPacket mi))
    | .ticking => some (onUpdate s (Master.heartbeatPacket mi))
    | _ => none
  | .writeUpdate ok => match s.main with
    | .writing packet =>
      if ok then
        some { s with
          main := .awaiting
          up := s.up ++ [(packet, .update (s.written + 1))]
          written := s.written + 1 }
      else some { s with main := .returned .writeError }
    | _ => none
  | .handOver => onHandOver s
  | .mainReadError => onMainReadError s
  | .readerRead => onReaderRead s
  | .readerError => match s.reader with
    | .reading => some { s with reader := .ended }
    | _ => none
  | .readerReply reply ok => onReaderReply s reply ok
  | .handlerRead => match s.handler, s.up with
    | .reading, (packet, sent) :: rest => (s.reqs.step .masterConn (.read 0 packet)).map fun reqs =>
        { s with reqs := reqs, up := rest, handler := .resolving packet sent }
    | _, _ => none
  | .handlerError => match s.handler with
    | .reading => some { s with handler := .ended }
    | _ => none
  | .handlerLookup => onHandlerLookup authedMasterID authedClusterID s
  | .handlerSend => match s.handler with
    | .delivering => (s.reqs.step .masterConn (.send 0)).map fun reqs =>
        { s with reqs := reqs, handler := .reading }
    | _ => none
  | .upsert verdict => onUpsert s verdict
  | .callStart k id => (s.reqs.step .masterConn (.start k 0 id)).map fun reqs =>
      { s with reqs := reqs }
  | .callWrite k cmd ok => match s.reqs.calls k with
    | none => none
    | some call => (s.reqs.step .masterConn (.write k ok)).map fun reqs =>
        { s with
          reqs := reqs
          down := if ok then s.down ++ [(Orchestrator.commandPacket cmd call.key, .command)]
            else s.down }
  | .callTimeout k => (s.reqs.step .masterConn (.timeout k)).map fun reqs => { s with reqs := reqs }
  | .callExpire k => (s.reqs.step .masterConn (.expire k)).map fun reqs => { s with reqs := reqs }
  | .callReceive k => (s.reqs.step .masterConn (.receive k)).map fun reqs => { s with reqs := reqs }

/-- A command's reply that is looked up still has its caller waiting. -/
def RepliesAwaited (s : State) : Action → Prop
  | .handlerLookup => ∀ packet sent, s.handler = .resolving packet sent →
      packet.type = packetOrchCommandReply → (s.reqs.awaited replyKey 0 packet).isSome
  | _ => True

/-- The master reports the identity it is pinned to, and the store accepts
it. -/
def Accepting (authedMasterID authedClusterID : String) (_ : State) : Action → Prop
  | .update mi => mi.id ≠ "" ∧ mi.id = authedMasterID ∧ mi.cluster = authedClusterID
  | .upsert verdict => verdict.passes = true
  | _ => True

variable {authedMasterID authedClusterID : String}

-- ---------------------------------------------------------------------------
-- The update in progress
--
-- At any time at most one update is unanswered. It is in flight to the
-- orchestrator, in the hands of `handleConn`, in flight back as an answer, or
-- offered on `respCh`; `tokens` collects the update numbers at these four
-- places.
-- ---------------------------------------------------------------------------

def Sent.tokens : Sent → Multiset Nat
  | .update n => {n}
  | .reply => 0

def Source.tokens : Source → Multiset Nat
  | .answer n => {n}
  | _ => 0

def Handler.tokens : Handler → Multiset Nat
  | .resolving _ sent => sent.tokens
  | .upserting _ sent => sent.tokens
  | _ => 0

def Reader.tokens : Reader → Multiset Nat
  | .offering _ source => source.tokens
  | _ => 0

def State.tokens (s : State) : Multiset Nat :=
  (s.up.map fun e => e.2.tokens).sum + s.handler.tokens +
    (s.down.map fun e => e.2.tokens).sum + s.reader.tokens

theorem sum_tokens_append {α : Type} (f : α → Multiset Nat) (l : List α) (a : α) :
    ((l ++ [a]).map f).sum = (l.map f).sum + f a := by
  simp

/-- What a packet to the orchestrator looks like. -/
def SentOK (packet : Packet) : Sent → Prop
  | .update _ => packet.replyTo = ""
  | .reply => packet.type = packetOrchCommandReply

def HandlerOK : Handler → Prop
  | .resolving packet sent => SentOK packet sent
  | .upserting _ sent => sent ≠ .reply
  | _ => True

/-- What a packet to the master looks like: none is stray. -/
def SourceOK (packet : Packet) : Source → Prop
  | .command => packet.type = packetOrchCommand
  | .answer _ => True
  | .stray => False

def ReaderOK : Reader → Prop
  | .offering _ source => ∃ n, source = .answer n
  | _ => True

/-- `connectLoop` writes an update only when none is in progress. -/
def MainOK (s : State) : Main → Prop
  | .writing packet => s.tokens = 0 ∧ packet.replyTo = ""
  | .awaiting => s.tokens ≤ {s.written}
  | .returned _ => True
  | _ => s.tokens = 0

structure Inv (s : State) : Prop where
  main : MainOK s s.main
  up : ∀ e ∈ s.up, SentOK e.1 e.2
  handler : HandlerOK s.handler
  down : ∀ e ∈ s.down, SourceOK e.1 e.2
  reader : ReaderOK s.reader
  received : ∀ r ∈ s.received, r.2 = .answer r.1

theorem inv_init : Inv init where
  main := rfl
  up := fun _ h => absurd h List.not_mem_nil
  handler := trivial
  down := fun _ h => absurd h List.not_mem_nil
  reader := trivial
  received := fun _ h => absurd h List.not_mem_nil

theorem Inv.main_eq {s : State} (hs : Inv s) {m : Main} (h : s.main = m) : MainOK s m := h ▸ hs.main

theorem Inv.handler_eq {s : State} (hs : Inv s) {l : Handler} (h : s.handler = l) : HandlerOK l :=
  h ▸ hs.handler

theorem Inv.reader_eq {s : State} (hs : Inv s) {r : Reader} (h : s.reader = r) : ReaderOK r :=
  h ▸ hs.reader

/-- `connectLoop` stays where it is while tokens only disappear. -/
theorem MainOK.keep {s t : State} (h : MainOK s s.main) (hmain : t.main = s.main)
    (hwritten : t.written = s.written) (htokens : t.tokens ≤ s.tokens) : MainOK t t.main := by
  rw [hmain]
  cases hm : s.main with
  | returned failure => trivial
  | awaiting =>
    rw [hm] at h
    show t.tokens ≤ {t.written}
    rw [hwritten]
    exact htokens.trans h
  | writing packet =>
    rw [hm] at h
    exact ⟨Multiset.le_zero.mp (htokens.trans (le_of_eq h.1)), h.2⟩
  | registering =>
    rw [hm] at h
    exact Multiset.le_zero.mp (htokens.trans (le_of_eq h))
  | ticking =>
    rw [hm] at h
    exact Multiset.le_zero.mp (htokens.trans (le_of_eq h))

-- ---------------------------------------------------------------------------
-- The steps of the master
-- ---------------------------------------------------------------------------

theorem registerPacket_replyTo {mi : MasterInfo} {p : Packet}
    (h : Master.registerPacket mi = .ok p) : p.replyTo = "" := by
  rw [Master.registerPacket_ok, Except.ok.injEq] at h
  rw [← h]

theorem heartbeatPacket_replyTo {mi : MasterInfo} {p : Packet}
    (h : Master.heartbeatPacket mi = .ok p) : p.replyTo = "" := by
  rw [Master.heartbeatPacket_ok, Except.ok.injEq] at h
  rw [← h]

theorem inv_onUpdate {s : State} (hs : Inv s) (htokens : s.tokens = 0)
    {packet : Except String Packet} (hpacket : ∀ p, packet = .ok p → p.replyTo = "") :
    Inv (onUpdate s packet) := by
  cases packet with
  | error e => exact ⟨trivial, hs.up, hs.handler, hs.down, hs.reader, hs.received⟩
  | ok p => exact ⟨⟨htokens, hpacket p rfl⟩, hs.up, hs.handler, hs.down, hs.reader, hs.received⟩

theorem inv_writeUpdate {s : State} (hs : Inv s) {packet : Packet}
    (hmain : s.main = .writing packet) :
    Inv { s with
      main := .awaiting
      up := s.up ++ [(packet, .update (s.written + 1))]
      written := s.written + 1 } := by
  have hw : s.tokens = 0 ∧ packet.replyTo = "" := hs.main_eq hmain
  refine ⟨?_, ?_, hs.handler, hs.down, hs.reader, hs.received⟩
  · -- the new update is the only one in progress
    show State.tokens _ ≤ {s.written + 1}
    have hsum : State.tokens { s with
        main := .awaiting
        up := s.up ++ [(packet, .update (s.written + 1))]
        written := s.written + 1 } = s.tokens + {s.written + 1} := by
      rw [State.tokens, State.tokens, sum_tokens_append]
      simp only [Sent.tokens]
      abel
    rw [hsum, hw.1, zero_add]
  · -- an update has no `reply_to`
    intro e he
    rcases List.mem_append.mp he with he | he
    · exact hs.up e he
    · obtain rfl := List.mem_singleton.mp he
      exact hw.2

/-- The rendezvous on `respCh`: the offered answer is the one token there
is. -/
theorem inv_handOver {s t : State} (hs : Inv s) (h : onHandOver s = some t) : Inv t := by
  unfold onHandOver at h
  split at h
  · next packet source hmain hreader =>
    obtain ⟨n, rfl⟩ : ∃ n, source = .answer n := hs.reader_eq hreader
    have hle : s.tokens ≤ {s.written} := hs.main_eq hmain
    have hsum : s.tokens = (s.up.map fun e => e.2.tokens).sum + s.handler.tokens +
        (s.down.map fun e => e.2.tokens).sum + {n} := by
      rw [State.tokens, hreader]
      rfl
    rw [hsum] at hle
    -- so it answers the update just written, and nothing else is in progress
    have hn : n = s.written := by
      have hmem : n ∈ ({s.written} : Multiset Nat) :=
        Multiset.mem_of_le hle (Multiset.mem_add.mpr (.inr (Multiset.mem_singleton_self n)))
      exact Multiset.mem_singleton.mp hmem
    have hrest : (s.up.map fun e => e.2.tokens).sum + s.handler.tokens +
        (s.down.map fun e => e.2.tokens).sum = 0 := by
      rw [hn] at hle
      have hle' := hle.trans (le_of_eq (zero_add ({s.written} : Multiset Nat)).symm)
      exact Multiset.le_zero.mp (le_of_add_le_add_right hle')
    cases h
    refine ⟨?_, hs.up, hs.handler, hs.down, trivial, ?_⟩
    · -- the answer is used up, whatever it says
      have hzero : State.tokens { s with
          main := match Master.expectAuthOK packet with
            | .ok _ => .ticking
            | .error text => .returned (.answer text)
          reader := .reading
          received := s.received ++ [(s.written, .answer n)] } = 0 := by
        rw [State.tokens]
        simpa [Reader.tokens] using hrest
      dsimp only
      cases Master.expectAuthOK packet with
      | error text => trivial
      | ok u => exact hzero
    · -- what is logged now is the answer to the update just written
      intro r hr
      rcases List.mem_append.mp hr with hr | hr
      · exact hs.received r hr
      · obtain rfl := List.mem_singleton.mp hr
        rw [hn]
  · cases h

theorem inv_readerRead {s t : State} (hs : Inv s) (h : onReaderRead s = some t) : Inv t := by
  unfold onReaderRead at h
  split at h
  · next packet source rest hreader hdown =>
    have hhead : SourceOK packet source := hs.down (packet, source) (hdown ▸ List.mem_cons_self)
    have hrest : ∀ e ∈ rest, SourceOK e.1 e.2 := fun e he =>
      hs.down e (hdown ▸ List.mem_cons_of_mem _ he)
    have htokens : s.tokens = (s.up.map fun e => e.2.tokens).sum + s.handler.tokens +
        (source.tokens + (rest.map fun e => e.2.tokens).sum) := by
      rw [State.tokens, hdown, hreader, List.map_cons, List.sum_cons]
      simp [Reader.tokens]
    cases h
    refine ⟨hs.main.keep rfl rfl ?_, hs.up, hs.handler, hrest, ?_, hs.received⟩
    · -- the token of the packet moves to the reader, or is dropped with it
      rw [htokens]
      simp only [State.tokens]
      cases Master.dispatch packet with
      | respond =>
        apply le_of_eq
        simp only [Reader.tokens]
        abel
      | ignore text =>
        simp only [Reader.tokens, add_zero, add_assoc]
        gcongr
        exact Multiset.le_add_left ..
      | command cmd =>
        simp only [Reader.tokens, add_zero, add_assoc]
        gcongr
        exact Multiset.le_add_left ..
    · dsimp only
      cases hd : Master.dispatch packet with
      | respond =>
        cases source with
        | answer n => exact ⟨n, rfl⟩
        | stray => exact absurd hhead id
        | command =>
          -- a command has another type
          have htype : packet.type = packetOrchCommand := hhead
          have hresp := Master.dispatch_respond hd
          rw [htype] at hresp
          exact absurd hresp (by decide)
      | ignore text => trivial
      | command cmd => trivial
  · cases h

theorem inv_readerReply {s t : State} (hs : Inv s) {reply : CommandReply} {ok : Bool}
    (h : onReaderReply s reply ok = some t) : Inv t := by
  unfold onReaderReply at h
  split at h
  · next packet cmd hreader =>
    rw [Master.replyPacket_ok] at h
    cases h
    refine ⟨hs.main.keep rfl rfl (le_of_eq ?_), ?_, hs.handler, hs.down, trivial, hs.received⟩
    · -- a reply is no token
      cases ok <;> simp [State.tokens, hreader, Reader.tokens, Sent.tokens]
    · intro e he
      cases ok with
      | false => exact hs.up e he
      | true =>
        rcases List.mem_append.mp he with he | he
        · exact hs.up e he
        · obtain rfl := List.mem_singleton.mp he
          rfl
  · cases h

-- ---------------------------------------------------------------------------
-- The steps of the orchestrator
-- ---------------------------------------------------------------------------

theorem inv_handlerRead {s : State} (hs : Inv s) {packet : Packet} {sent : Sent}
    {rest : List (Packet × Sent)} (hhandler : s.handler = .reading)
    (hup : s.up = (packet, sent) :: rest) (reqs : Requests) :
    Inv { s with reqs := reqs, up := rest, handler := .resolving packet sent } := by
  refine ⟨hs.main.keep rfl rfl (le_of_eq ?_), ?_, ?_, hs.down, hs.reader, hs.received⟩
  · -- the token moves from the stream to the handler
    simp only [State.tokens, hhandler, hup, Handler.tokens, List.map_cons, List.sum_cons]
    abel
  · exact fun e he => hs.up e (hup ▸ List.mem_cons_of_mem _ he)
  · exact hs.up (packet, sent) (hup ▸ List.mem_cons_self)

/-- `handleConn` writes an answer to an update it holds. -/
theorem inv_answer {s : State} (hs : Inv s) {n : Nat} (answer : Packet) (reqs : Requests)
    (htokens : s.handler.tokens = {n}) :
    Inv { s with
      reqs := reqs
      handler := .reading
      down := s.down ++ [(answer, .answer n)] } := by
  refine ⟨hs.main.keep rfl rfl (le_of_eq ?_), hs.up, trivial, ?_, hs.reader, hs.received⟩
  · -- the token moves from the handler to the stream back
    rw [State.tokens, State.tokens, htokens, sum_tokens_append]
    simp only [Handler.tokens, Source.tokens]
    abel
  · intro e he
    rcases List.mem_append.mp he with he | he
    · exact hs.down e he
    · obtain rfl := List.mem_singleton.mp he
      trivial

theorem inv_handlerLookup {s t : State} (hs : Inv s) (hok : RepliesAwaited s .handlerLookup)
    (h : onHandlerLookup authedMasterID authedClusterID s = some t) : Inv t := by
  unfold onHandlerLookup at h
  split at h
  · next packet sent hhandler =>
    have hsent : SentOK packet sent := hs.handler_eq hhandler
    obtain ⟨reqs, -, rfl⟩ := Option.map_eq_some_iff.mp h
    cases sent with
    | reply =>
      -- the caller still waits, so the reply is not answered
      rw [if_pos (hok packet .reply hhandler hsent)]
      refine ⟨hs.main.keep rfl rfl (le_of_eq ?_), hs.up, trivial, hs.down, hs.reader, hs.received⟩
      simp [State.tokens, hhandler, Handler.tokens, Sent.tokens]
    | update n =>
      -- an update is no reply, so it goes on to the `switch`
      have hnone : s.reqs.awaited replyKey 0 packet = none := by
        have hkey : replyKey packet = none := if_pos hsent
        rw [PendingTable.State.awaited, hkey]
        rfl
      rw [hnone, Option.isSome_none, if_neg Bool.false_ne_true]
      cases Orchestrator.checkMessage authedMasterID authedClusterID packet with
      | error e => exact inv_answer hs (newError e) reqs (by rw [hhandler]; rfl)
      | ok mi =>
        refine ⟨hs.main.keep rfl rfl (le_of_eq ?_), hs.up, by simp [HandlerOK], hs.down,
          hs.reader, hs.received⟩
        simp [State.tokens, hhandler, Handler.tokens]
  · cases h

theorem inv_upsert {s t : State} (hs : Inv s) {verdict : Orchestrator.Verdict}
    (h : onUpsert s verdict = some t) : Inv t := by
  unfold onUpsert at h
  split at h
  · next mi sent hhandler =>
    have hsent : sent ≠ .reply := hs.handler_eq hhandler
    cases sent with
    | reply => exact absurd rfl hsent
    | update n =>
      cases h
      exact inv_answer hs _ s.reqs (by rw [hhandler]; rfl)
  · cases h

/-- A step of a caller that writes at most a command. -/
theorem inv_call {s : State} (hs : Inv s) (reqs : Requests)
    {down : List (Packet × Source)}
    (hdown : down = s.down ∨ ∃ cmd id, down =
      s.down ++ [(Orchestrator.commandPacket cmd id, .command)]) :
    Inv { s with reqs := reqs, down := down } := by
  rcases hdown with rfl | ⟨cmd, id, rfl⟩
  · exact ⟨hs.main.keep rfl rfl (le_of_eq rfl), hs.up, hs.handler, hs.down, hs.reader, hs.received⟩
  · refine ⟨hs.main.keep rfl rfl (le_of_eq ?_), hs.up, hs.handler, ?_, hs.reader, hs.received⟩
    · -- a command is no token
      simp [State.tokens, Source.tokens]
    · intro e he
      rcases List.mem_append.mp he with he | he
      · exact hs.down e he
      · obtain rfl := List.mem_singleton.mp he
        rfl

/-- A step of any thread keeps the invariant, as long as a command's reply
that is looked up still has its caller waiting. -/
theorem inv_step {s t : State} {a : Action} (hs : Inv s) (hok : RepliesAwaited s a)
    (h : step authedMasterID authedClusterID s a = some t) : Inv t := by
  cases a with
  | update mi =>
    simp only [step] at h
    split at h
    · -- the first update: a register packet
      next hmain =>
      cases h
      have htokens : s.tokens = 0 := hs.main_eq hmain
      exact inv_onUpdate hs htokens fun p hp => registerPacket_replyTo hp
    · -- the ticker has fired: a heartbeat packet
      next hmain =>
      cases h
      have htokens : s.tokens = 0 := hs.main_eq hmain
      exact inv_onUpdate hs htokens fun p hp => heartbeatPacket_replyTo hp
    · cases h
  | writeUpdate ok =>
    simp only [step] at h
    split at h
    · next packet hmain =>
      cases ok with
      | true =>
        cases h
        exact inv_writeUpdate hs hmain
      | false =>
        -- a failed write ends the session
        cases h
        exact ⟨trivial, hs.up, hs.handler, hs.down, hs.reader, hs.received⟩
    · cases h
  | handOver => exact inv_handOver hs h
  | mainReadError =>
    simp only [step, onMainReadError] at h
    split at h
    · cases h
      exact ⟨trivial, hs.up, hs.handler, hs.down, hs.reader, hs.received⟩
    · cases h
      exact ⟨trivial, hs.up, hs.handler, hs.down, hs.reader, hs.received⟩
    · cases h
  | readerRead => exact inv_readerRead hs h
  | readerError =>
    simp only [step] at h
    split at h
    · next hreader =>
      cases h
      refine ⟨hs.main.keep rfl rfl (le_of_eq ?_), hs.up, hs.handler, hs.down, trivial, hs.received⟩
      simp [State.tokens, hreader, Reader.tokens]
    · cases h
  | readerReply reply ok => exact inv_readerReply hs h
  | handlerRead =>
    simp only [step] at h
    split at h
    · next packet sent rest hhandler hup =>
      obtain ⟨reqs, -, rfl⟩ := Option.map_eq_some_iff.mp h
      exact inv_handlerRead hs hhandler hup reqs
    · cases h
  | handlerError =>
    simp only [step] at h
    split at h
    · next hhandler =>
      cases h
      refine ⟨hs.main.keep rfl rfl (le_of_eq ?_), hs.up, trivial, hs.down, hs.reader, hs.received⟩
      simp [State.tokens, hhandler, Handler.tokens]
    · cases h
  | handlerLookup => exact inv_handlerLookup hs hok h
  | handlerSend =>
    simp only [step] at h
    split at h
    · next hhandler =>
      obtain ⟨reqs, -, rfl⟩ := Option.map_eq_some_iff.mp h
      refine ⟨hs.main.keep rfl rfl (le_of_eq ?_), hs.up, trivial, hs.down, hs.reader, hs.received⟩
      simp [State.tokens, hhandler, Handler.tokens]
    · cases h
  | upsert verdict => exact inv_upsert hs h
  | callWrite k cmd ok =>
    simp only [step] at h
    split at h
    · cases h
    · next call hcall =>
      obtain ⟨reqs, -, rfl⟩ := Option.map_eq_some_iff.mp h
      refine inv_call hs reqs ?_
      cases ok with
      | true => exact .inr ⟨cmd, call.key, rfl⟩
      | false => exact .inl rfl
  | _ =>
    obtain ⟨reqs, -, rfl⟩ := Option.map_eq_some_iff.mp h
    exact inv_call hs reqs (.inl rfl)

-- ---------------------------------------------------------------------------
-- A pinned identity that the store accepts
-- ---------------------------------------------------------------------------

/-- The update passes the checks of `handleConn`. -/
def Passes (authedMasterID authedClusterID : String) (packet : Packet) : Prop :=
  ∃ mi, Orchestrator.checkMessage authedMasterID authedClusterID packet = .ok mi ∧ mi.id ≠ ""

/-- Every update passes and every answer is `auth.ok`. -/
structure Accepted (authedMasterID authedClusterID : String) (s : State) : Prop where
  writing : ∀ p, s.main = .writing p → Passes authedMasterID authedClusterID p
  returned : ∀ text, s.main ≠ .returned (.answer text)
  up : ∀ p n, (p, .update n) ∈ s.up → Passes authedMasterID authedClusterID p
  resolving : ∀ p n, s.handler = .resolving p (.update n) → Passes authedMasterID authedClusterID p
  upserting : ∀ mi sent, s.handler = .upserting mi sent → mi.id ≠ ""
  down : ∀ p n, (p, .answer n) ∈ s.down → p = Orchestrator.okPacket
  offering : ∀ p n, s.reader = .offering p (.answer n) → p = Orchestrator.okPacket

theorem accepted_init : Accepted authedMasterID authedClusterID init where
  writing := fun _ h => absurd h (by simp [init])
  returned := fun _ h => absurd h (by simp [init])
  up := fun _ _ h => absurd h List.not_mem_nil
  resolving := fun _ _ h => absurd h (by simp [init])
  upserting := fun _ _ h => absurd h (by simp [init])
  down := fun _ _ h => absurd h List.not_mem_nil
  offering := fun _ _ h => absurd h (by simp [init])

theorem passes_report {type : String}
    (htype : type = packetMasterRegister ∨ type = packetMasterHeartbeat) {mi : MasterInfo}
    (h : mi.id ≠ "" ∧ mi.id = authedMasterID ∧ mi.cluster = authedClusterID) :
    Passes authedMasterID authedClusterID { type := type, payload := some mi.marshal } := by
  obtain ⟨hne, rfl, rfl⟩ := h
  exact ⟨mi, Orchestrator.checkMessage_report htype hne, hne⟩

theorem accepted_update {s : State} (hs : Accepted authedMasterID authedClusterID s) {p : Packet}
    (hp : Passes authedMasterID authedClusterID p) :
    Accepted authedMasterID authedClusterID { s with main := .writing p } where
  writing := fun q hq => by
    obtain rfl := Main.writing.inj hq
    exact hp
  returned := by simp
  up := hs.up
  resolving := hs.resolving
  upserting := hs.upserting
  down := hs.down
  offering := hs.offering

theorem accepted_handOver {s t : State} (hs : Accepted authedMasterID authedClusterID s)
    (hinv : Inv s) (h : onHandOver s = some t) : Accepted authedMasterID authedClusterID t := by
  unfold onHandOver at h
  split at h
  · next packet source hmain hreader =>
    obtain ⟨n, rfl⟩ : ∃ n, source = .answer n := hinv.reader_eq hreader
    -- the answer offered is `auth.ok`, so `connectLoop` goes on
    obtain rfl := hs.offering packet n hreader
    rw [Master.expectAuthOK_ok rfl] at h
    cases h
    exact ⟨by simp, by simp, hs.up, hs.resolving, hs.upserting, hs.down, by simp⟩
  · cases h

theorem accepted_readerRead {s t : State} (hs : Accepted authedMasterID authedClusterID s)
    (h : onReaderRead s = some t) : Accepted authedMasterID authedClusterID t := by
  unfold onReaderRead at h
  split at h
  · next packet source rest hreader hdown =>
    cases h
    refine ⟨hs.writing, hs.returned, hs.up, hs.resolving, hs.upserting, ?_, ?_⟩
    · exact fun p n hp => hs.down p n (hdown ▸ List.mem_cons_of_mem _ hp)
    · -- what is offered was in flight a moment ago
      intro p n hp
      dsimp only at hp
      cases hd : Master.dispatch packet with
      | respond =>
        rw [hd] at hp
        obtain ⟨rfl, rfl⟩ := Reader.offering.inj hp
        exact hs.down packet n (hdown ▸ List.mem_cons_self)
      | ignore text =>
        rw [hd] at hp
        cases hp
      | command cmd =>
        rw [hd] at hp
        cases hp
  · cases h

theorem accepted_readerReply {s t : State} (hs : Accepted authedMasterID authedClusterID s)
    {reply : CommandReply} {ok : Bool} (h : onReaderReply s reply ok = some t) :
    Accepted authedMasterID authedClusterID t := by
  unfold onReaderReply at h
  split at h
  · next packet cmd hreader =>
    rw [Master.replyPacket_ok] at h
    cases h
    refine ⟨hs.writing, hs.returned, ?_, hs.resolving, hs.upserting, hs.down, by simp⟩
    intro p n hp
    cases ok with
    | false => exact hs.up p n hp
    | true =>
      -- the packet added is a reply and no update
      rcases List.mem_append.mp hp with hp | hp
      · exact hs.up p n hp
      · exact absurd (List.mem_singleton.mp hp) (by simp)
  · cases h

/-- `handleConn` goes back to reading, possibly after an answer. -/
theorem accepted_answer {s : State} (hs : Accepted authedMasterID authedClusterID s)
    (reqs : Requests) (sent : Sent) :
    Accepted authedMasterID authedClusterID { s with
      reqs := reqs
      handler := .reading
      down := s.down ++ [(Orchestrator.okPacket, sent.source)] } where
  writing := hs.writing
  returned := hs.returned
  up := hs.up
  resolving := by simp
  upserting := by simp
  down := by
    intro p n hp
    rcases List.mem_append.mp hp with hp | hp
    · exact hs.down p n hp
    · exact (Prod.mk.inj (List.mem_singleton.mp hp)).1
  offering := hs.offering

theorem accepted_handlerLookup {s t : State} (hs : Accepted authedMasterID authedClusterID s)
    (hinv : Inv s) (hok : RepliesAwaited s .handlerLookup)
    (h : onHandlerLookup authedMasterID authedClusterID s = some t) :
    Accepted authedMasterID authedClusterID t := by
  unfold onHandlerLookup at h
  split at h
  · next packet sent hhandler =>
    have hsent : SentOK packet sent := hinv.handler_eq hhandler
    obtain ⟨reqs, -, rfl⟩ := Option.map_eq_some_iff.mp h
    by_cases hawaited : (s.reqs.awaited replyKey 0 packet).isSome
    · -- delivered to its caller, no answer is written
      rw [if_pos hawaited]
      exact ⟨hs.writing, hs.returned, hs.up, by simp, by simp, hs.down, hs.offering⟩
    · rw [if_neg hawaited]
      cases sent with
      | reply => exact absurd (hok packet .reply hhandler hsent) hawaited
      | update n =>
        -- the checks pass, so no error is written here
        obtain ⟨mi, hcheck, hne⟩ := hs.resolving packet n hhandler
        rw [hcheck]
        refine ⟨hs.writing, hs.returned, hs.up, by simp, ?_, hs.down, hs.offering⟩
        intro mi' sent' heq
        obtain ⟨rfl, -⟩ := Handler.upserting.inj heq
        exact hne
  · cases h

theorem accepted_call {s : State} (hs : Accepted authedMasterID authedClusterID s)
    (reqs : Requests) {down : List (Packet × Source)}
    (hdown : down = s.down ∨ ∃ cmd id, down =
      s.down ++ [(Orchestrator.commandPacket cmd id, .command)]) :
    Accepted authedMasterID authedClusterID { s with reqs := reqs, down := down } := by
  refine ⟨hs.writing, hs.returned, hs.up, hs.resolving, hs.upserting, ?_, hs.offering⟩
  intro p n hp
  rcases hdown with rfl | ⟨cmd, id, rfl⟩
  · exact hs.down p n hp
  · -- the packet added is a command and no answer
    rcases List.mem_append.mp hp with hp | hp
    · exact hs.down p n hp
    · exact absurd (List.mem_singleton.mp hp) (by simp)

/-- A step of any thread keeps every answer an `auth.ok`. -/
theorem accepted_step {s t : State} {a : Action} (hs : Accepted authedMasterID authedClusterID s)
    (hinv : Inv s) (hok : RepliesAwaited s a) (hacc : Accepting authedMasterID authedClusterID s a)
    (h : step authedMasterID authedClusterID s a = some t) :
    Accepted authedMasterID authedClusterID t := by
  cases a with
  | update mi =>
    simp only [step] at h
    split at h
    · rw [Master.registerPacket_ok] at h
      cases h
      exact accepted_update hs (passes_report (.inl rfl) hacc)
    · rw [Master.heartbeatPacket_ok] at h
      cases h
      exact accepted_update hs (passes_report (.inr rfl) hacc)
    · cases h
  | writeUpdate ok =>
    simp only [step] at h
    split at h
    · next packet hmain =>
      cases ok with
      | true =>
        cases h
        refine ⟨by simp, by simp, ?_, hs.resolving, hs.upserting, hs.down, hs.offering⟩
        -- the packet written was built to pass
        intro p n hp
        rcases List.mem_append.mp hp with hp | hp
        · exact hs.up p n hp
        · obtain ⟨rfl, -⟩ := Prod.mk.inj (List.mem_singleton.mp hp)
          exact hs.writing p hmain
      | false =>
        cases h
        exact ⟨by simp, by simp, hs.up, hs.resolving, hs.upserting, hs.down, hs.offering⟩
    · cases h
  | handOver => exact accepted_handOver hs hinv h
  | mainReadError =>
    simp only [step, onMainReadError] at h
    split at h
    · cases h
      exact ⟨by simp, by simp, hs.up, hs.resolving, hs.upserting, hs.down, hs.offering⟩
    · cases h
      exact ⟨by simp, by simp, hs.up, hs.resolving, hs.upserting, hs.down, hs.offering⟩
    · cases h
  | readerRead => exact accepted_readerRead hs h
  | readerError =>
    simp only [step] at h
    split at h
    · cases h
      exact ⟨hs.writing, hs.returned, hs.up, hs.resolving, hs.upserting, hs.down, by simp⟩
    · cases h
  | readerReply reply ok => exact accepted_readerReply hs h
  | handlerRead =>
    simp only [step] at h
    split at h
    · next packet sent rest hhandler hup =>
      obtain ⟨reqs, -, rfl⟩ := Option.map_eq_some_iff.mp h
      refine ⟨hs.writing, hs.returned, ?_, ?_, by simp, hs.down, hs.offering⟩
      · exact fun p n hp => hs.up p n (hup ▸ List.mem_cons_of_mem _ hp)
      · intro p n hp
        obtain ⟨rfl, rfl⟩ := Handler.resolving.inj hp
        exact hs.up packet n (hup ▸ List.mem_cons_self)
    · cases h
  | handlerError =>
    simp only [step] at h
    split at h
    · cases h
      exact ⟨hs.writing, hs.returned, hs.up, by simp, by simp, hs.down, hs.offering⟩
    · cases h
  | handlerLookup => exact accepted_handlerLookup hs hinv hok h
  | handlerSend =>
    simp only [step] at h
    split at h
    · obtain ⟨reqs, -, rfl⟩ := Option.map_eq_some_iff.mp h
      exact ⟨hs.writing, hs.returned, hs.up, by simp, by simp, hs.down, hs.offering⟩
    · cases h
  | upsert verdict =>
    simp only [step, onUpsert] at h
    split at h
    · next mi sent hhandler =>
      -- the store accepts, so the answer is `auth.ok`
      rw [if_pos ⟨hs.upserting mi sent hhandler, hacc⟩] at h
      cases h
      exact accepted_answer hs s.reqs sent
    · cases h
  | callWrite k cmd ok =>
    simp only [step] at h
    split at h
    · cases h
    · next call hcall =>
      obtain ⟨reqs, -, rfl⟩ := Option.map_eq_some_iff.mp h
      refine accepted_call hs reqs ?_
      cases ok with
      | true => exact .inr ⟨cmd, call.key, rfl⟩
      | false => exact .inl rfl
  | _ =>
    obtain ⟨reqs, -, rfl⟩ := Option.map_eq_some_iff.mp h
    exact accepted_call hs reqs (.inl rfl)

-- ---------------------------------------------------------------------------
-- Whole sessions
-- ---------------------------------------------------------------------------

/-- Everything received so far answers the update written just before. -/
def AnswersMatch (s : State) : Prop := ∀ r ∈ s.received, r.2 = .answer r.1

/-- **Answers over whole sessions.** For any number of commands and callers
and any interleaving: along every run in which each command's reply that
`handleConn` looks up still has its caller waiting,
`sendPacketAndExpectAuthOK` receives only the answer to the update it has
just written; and if the master reports its pinned identity and the store
accepts it, `connectLoop` never returns because of an answer. -/
theorem answers_match (authedMasterID authedClusterID : String) (as : List Action)
    (hok : Machine.Meets (step authedMasterID authedClusterID) RepliesAwaited init as) :
    Machine.Holds (step authedMasterID authedClusterID) AnswersMatch init as ∧
    (Machine.Meets (step authedMasterID authedClusterID)
        (Accepting authedMasterID authedClusterID) init as →
      Machine.Holds (step authedMasterID authedClusterID)
        (fun s => ∀ text, s.main ≠ .returned (.answer text)) init as) := by
  constructor
  · exact (Machine.holds_of_meets (fun _ _ _ hs hok h => inv_step hs hok h) inv_init hok).mono
      fun s hs => hs.received
  · intro hacc
    have hboth := Machine.Meets.and hok hacc
    refine (Machine.holds_of_meets
      (I := fun s => Inv s ∧ Accepted authedMasterID authedClusterID s) ?_
      ⟨inv_init, accepted_init⟩ hboth).mono fun s hs => hs.2.returned
    rintro s a t ⟨hinv, hs⟩ ⟨hok, hacc⟩ h
    exact ⟨inv_step hinv hok h, accepted_step hs hinv hok hacc h⟩

-- ---------------------------------------------------------------------------
-- A reply in time, and a late one
-- ---------------------------------------------------------------------------

def demoInfo : MasterInfo := { id := "m", cluster := "c" }

def demoCommand : OrchestratorCommand := { nodeID := "n", command := some (.obj []) }

/-- The register packet is written and answered. -/
def registered : List Action :=
  [.update demoInfo, .writeUpdate true, .handlerRead, .handlerLookup, .upsert none, .readerRead,
    .handOver]

/-- A command is answered before its caller gives up. -/
def timelyReply : List Action :=
  registered ++ [.callStart 0 "a", .callWrite 0 demoCommand true, .readerRead,
    .readerReply { status := "ok" } true, .handlerRead, .handlerLookup, .handlerSend,
    .callReceive 0]

theorem timelyReply_awaited : Machine.Meets (step "m" "c") RepliesAwaited init timelyReply := by
  have hregister : ∀ {s : State} {p : Packet} {sent : Sent}, s.handler = .resolving p sent →
      p.type = packetMasterRegister → RepliesAwaited s .handlerLookup := by
    intro s p sent hs hp q sent' hq htype
    obtain ⟨rfl, -⟩ := Handler.resolving.inj (hs.symm.trans hq)
    exact absurd (hp.symm.trans htype) (by decide)
  have hreply : ∀ {s : State} {p : Packet} {sent : Sent}, s.handler = .resolving p sent →
      (s.reqs.awaited replyKey 0 p).isSome → RepliesAwaited s .handlerLookup := by
    intro s p sent hs hp q sent' hq _
    obtain ⟨rfl, -⟩ := Handler.resolving.inj (hs.symm.trans hq)
    exact hp
  -- the two lookups: the register packet, and the reply its caller waits for
  exact .cons trivial rfl <| .cons trivial rfl <| .cons trivial rfl <|
    .cons (hregister rfl rfl) rfl <| .cons trivial rfl <| .cons trivial rfl <|
    .cons trivial rfl <| .cons trivial rfl <| .cons trivial rfl <| .cons trivial rfl <|
    .cons trivial rfl <| .cons trivial rfl <| .cons (hreply rfl rfl) rfl <|
    .cons trivial rfl <| .cons trivial rfl trivial

theorem timelyReply_accepting :
    Machine.Meets (step "m" "c") (Accepting "m" "c") init timelyReply := by
  have hinfo : demoInfo.id ≠ "" ∧ demoInfo.id = "m" ∧ demoInfo.cluster = "c" := by decide
  exact .cons hinfo rfl <| .cons trivial rfl <| .cons trivial rfl <| .cons trivial rfl <|
    .cons rfl rfl <| .cons trivial rfl <| .cons trivial rfl <| .cons trivial rfl <|
    .cons trivial rfl <| .cons trivial rfl <| .cons trivial rfl <| .cons trivial rfl <|
    .cons trivial rfl <| .cons trivial rfl <| .cons trivial rfl trivial

/-- With the reply in time, the session goes on and what was received is the
answer to the register packet. -/
theorem timelyReply_matches :
    (∃ s, Machine.run (step "m" "c") init timelyReply = some s ∧ s.received = [(1, .answer 1)]) ∧
    Machine.Holds (step "m" "c") AnswersMatch init timelyReply ∧
    Machine.Holds (step "m" "c") (fun s => ∀ text, s.main ≠ .returned (.answer text)) init
      timelyReply :=
  have hmatch := answers_match "m" "c" timelyReply timelyReply_awaited
  ⟨⟨_, rfl, rfl⟩, hmatch.1, hmatch.2 timelyReply_accepting⟩

/-- The caller gives up, then the reply arrives, and then the master sends
its next heartbeat. -/
def lateReply : List Action :=
  registered ++ [.callStart 0 "a", .callWrite 0 demoCommand true, .readerRead, .callTimeout 0,
    .callExpire 0, .readerReply { status := "ok" } true, .handlerRead, .handlerLookup,
    .readerRead, .update demoInfo, .writeUpdate true, .handOver]

/-- The late reply is answered with an error packet, which the master takes
for the answer to its heartbeat: `connectLoop` returns, although its identity
is the pinned one and every update was accepted. -/
theorem lateReply_mismatch :
    Machine.Meets (step "m" "c") (Accepting "m" "c") init lateReply ∧
    ∃ s, Machine.run (step "m" "c") init lateReply = some s ∧
      s.received = [(1, .answer 1), (2, .stray)] ∧
      s.main = .returned (.answer "orchestrator error: unknown message type") ∧
      ¬ AnswersMatch s := by
  have hinfo : demoInfo.id ≠ "" ∧ demoInfo.id = "m" ∧ demoInfo.cluster = "c" := by decide
  constructor
  · exact .cons hinfo rfl <| .cons trivial rfl <| .cons trivial rfl <| .cons trivial rfl <|
      .cons rfl rfl <| .cons trivial rfl <| .cons trivial rfl <| .cons trivial rfl <|
      .cons trivial rfl <| .cons trivial rfl <| .cons trivial rfl <| .cons trivial rfl <|
      .cons trivial rfl <| .cons trivial rfl <| .cons trivial rfl <| .cons trivial rfl <|
      .cons hinfo rfl <| .cons trivial rfl <| .cons trivial rfl trivial
  · refine ⟨_, rfl, rfl, rfl, fun hmatch => ?_⟩
    have hstray : Source.stray = .answer 2 :=
      hmatch (2, .stray) (List.mem_cons_of_mem _ (List.mem_singleton_self _))
    cases hstray

end Centralisd.Session
