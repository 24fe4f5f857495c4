import Centralisd.Lib.Machine
import Centralisd.Master.OrchestratorLoop

/-!
# Centralisd — `connectLoop` and its reader

One call of `connectLoop` (`src/master/orchestrator_client.go`) with the
goroutine that runs `readOrchestratorLoop`: the unbuffered `respCh`, the
`readErrCh` of capacity one, and the read buffer, whose packets stay readable
when the connection is closed. What the orchestrator sends, which reads and
writes fail and how the two interleave are the actions.

* `noOrphan_iff_closesClean` — the reader is never left at its send to
  `respCh` exactly in the runs in which `connectLoop` closes the connection
  only while no answer is held by the reader or waits in the buffer.
-/

namespace Centralisd.Master.ConnectLoop

/-- Where `connectLoop` is. -/
inductive Main where
  /-- before `readErrCh` and the goroutine are made -/
  | handshake
  /-- at `writePacket` of the register packet or of a heartbeat -/
  | writing
  /-- at the `select` of `sendPacketAndExpectAuthOK` -/
  | awaiting
  /-- at the `select` on the ticker -/
  | ticking
  /-- at the deferred `conn.Close` -/
  | closing
  | returned
  deriving DecidableEq

/-- Where the goroutine is. -/
inductive Reader where
  | unstarted
  /-- at `ReadPacket` -/
  | reading
  /-- at `respCh <- packet` -/
  | offering (packet : Packet)
  /-- carrying out a command -/
  | handling (cmd : OrchestratorCommand)
  /-- a read failed, at `readErrCh <- err` -/
  | failed
  | ended

/-- A line in the read buffer, as `ReadPacket` returns it: a packet or an
error. -/
abbrev Line := Option Packet

structure State where
  main : Main
  reader : Reader
  /-- the complete lines in the buffer of `reader` -/
  buffered : List Line
  /-- `readErrCh` holds an error -/
  readErr : Bool

def init : State := ⟨.handshake, .unstarted, [], false⟩

inductive Action where
  /-- the handshake fails, or ends with these lines in the buffer -/
  | handshake (result : Option (List Line))
  /-- `writePacket` returns -/
  | write (ok : Bool)
  /-- `respCh` passes a packet from the goroutine to `connectLoop` -/
  | answer
  /-- `connectLoop` receives from `readErrCh` -/
  | readErr
  | tick
  /-- `conn.Close` -/
  | close
  /-- a read of the connection fills the empty buffer -/
  | fill (lines : List Line)
  /-- `ReadPacket` returns the next line of the buffer -/
  | read
  /-- a read of the connection fails -/
  | readFails
  /-- a command is carried out and its reply written -/
  | handled
  /-- `readErrCh` takes the error -/
  | sendErr

/-- The steps of the goroutine alone. -/
def Action.ofReader : Action → Bool
  | .fill _ | .read | .readFails | .handled | .sendErr => true
  | _ => false

/-- Where `readOrchestratorLoop` goes with a packet. -/
def onPacket (packet : Packet) : Reader :=
  match dispatch packet with
  | .respond => .offering packet
  | .ignore _ => .reading
  | .command cmd => .handling cmd

/-- The steps of `connectLoop`, the receive on `respCh` included. -/
def onMain (s : State) : Action → Option State
  | .handshake result => match s.main, result with
    | .handshake, none => some { s with main := .closing }
    | .handshake, some lines =>
      some { s with main := .writing, reader := .reading, buffered := lines }
    | _, _ => none
  | .write ok => match s.main with
    | .writing => some { s with main := if ok then .awaiting else .closing }
    | _ => none
  | .answer => match s.main, s.reader with
    | .awaiting, .offering packet => some { s with
        reader := .reading
        main := match expectAuthOK packet with
          | .ok _ => .ticking
          | .error _ => .closing }
    | _, _ => none
  | .readErr =>
    if s.readErr = true ∧ (s.main = .awaiting ∨ s.main = .ticking) then
      some { s with main := .closing, readErr := false }
    else none
  | .tick => match s.main with
    | .ticking => some { s with main := .writing }
    | _ => none
  | .close => match s.main with
    | .closing => some { s with main := .returned }
    | _ => none
  | _ => none

/-- The steps of the goroutine. A closed connection yields no more bytes. -/
def onReader (s : State) : Action → Option State
  | .fill lines => match s.reader, s.buffered with
    | .reading, [] => if s.main = .returned then none else some { s with buffered := lines }
    | _, _ => none
  | .read => match s.reader, s.buffered with
    | .reading, some packet :: rest =>
      some { s with reader := onPacket packet, buffered := rest }
    | .reading, none :: rest => some { s with reader := .failed, buffered := rest }
    | _, _ => none
  | .readFails => match s.reader, s.buffered with
    | .reading, [] => some { s with reader := .failed }
    | _, _ => none
  | .handled => match s.reader with
    | .handling _ => some { s with reader := .reading }
    | _ => none
  | .sendErr => match s.reader with
    | .failed => some { s with reader := .ended, readErr := true }
    | _ => none
  | _ => none

def step (s : State) (a : Action) : Option State :=
  if a.ofReader then onReader s a else onMain s a

/-! ## Orphans -/

/-- `connectLoop` has returned and the goroutine is at `respCh <- packet`. -/
def Orphaned (s : State) : Prop := s.main = .returned ∧ ∃ packet, s.reader = .offering packet

/-- `readOrchestratorLoop` comes to an answer in the buffer before it comes to
a line it cannot read. -/
def holdsAnswer : List Line → Bool
  | some packet :: rest => match dispatch packet with
    | .respond => true
    | _ => holdsAnswer rest
  | _ => false

/-- The goroutine has an answer, or will find one in the buffer. -/
def AnswerPending (s : State) : Prop :=
  match s.reader with
  | .offering _ => True
  | .reading | .handling _ => holdsAnswer s.buffered = true
  | _ => False

/-- The connection is not closed on a pending answer. -/
def ClosesClean (s : State) : Action → Prop
  | .close => ¬ AnswerPending s
  | _ => True

/-- After its return `connectLoop` has left no answer behind. -/
def Settled (s : State) : Prop := s.main = .returned → ¬ AnswerPending s

theorem Settled.not_orphaned {s : State} (hs : Settled s) : ¬ Orphaned s := by
  rintro ⟨hmain, packet, hreader⟩
  refine hs hmain ?_
  rw [AnswerPending, hreader]
  trivial

/-- The only step of `connectLoop` into its return is the close, and none
leads out of it. -/
theorem onMain_returned {s t : State} {a : Action} (h : onMain s a = some t) :
    s.main ≠ .returned ∧
      (t.main = .returned ↔ a = .close) ∧ (a = .close → (AnswerPending t ↔ AnswerPending s)) := by
  cases a with
  | handshake result =>
    simp only [onMain] at h
    split at h <;> cases h <;> simp [*]
  | write ok =>
    simp only [onMain] at h
    split at h
    · cases h
      cases ok <;> simp [*]
    · cases h
  | answer =>
    simp only [onMain] at h
    split at h
    · next packet hmain hreader =>
      cases h
      refine ⟨by simp [hmain], ?_, nofun⟩
      dsimp only
      split <;> simp
    · cases h
  | readErr =>
    simp only [onMain] at h
    split at h
    · next hcond =>
      cases h
      refine ⟨?_, by simp, nofun⟩
      rcases hcond.2 with hmain | hmain <;> simp [hmain]
    · cases h
  | tick =>
    simp only [onMain] at h
    split at h <;> cases h
    simp [*]
  | close =>
    simp only [onMain] at h
    split at h
    · next hmain =>
      cases h
      exact ⟨by simp [hmain], by simp, fun _ => Iff.rfl⟩
    · cases h
  | _ => cases h

/-- The goroutine's steps do not move `connectLoop`; once that has returned,
they neither bring a pending answer nor take one away. -/
theorem onReader_pending {s t : State} {a : Action} (h : onReader s a = some t) :
    t.main = s.main ∧ (s.main = .returned → (AnswerPending t ↔ AnswerPending s)) := by
  cases a with
  | fill lines =>
    simp only [onReader] at h
    split at h
    · split at h
      · cases h
      · next hmain =>
        cases h
        exact ⟨rfl, fun hret => absurd hret hmain⟩
    · cases h
  | read =>
    simp only [onReader] at h
    split at h
    · next packet rest hreader hbuf =>
      cases h
      refine ⟨rfl, fun _ => ?_⟩
      simp only [AnswerPending, hreader, hbuf, holdsAnswer, onPacket]
      cases dispatch packet <;> simp
    · next rest hreader hbuf =>
      cases h
      refine ⟨rfl, fun _ => ?_⟩
      simp [AnswerPending, hreader, hbuf, holdsAnswer]
    · cases h
  | readFails =>
    simp only [onReader] at h
    split at h
    · next hreader hbuf =>
      cases h
      refine ⟨rfl, fun _ => ?_⟩
      simp [AnswerPending, hreader, hbuf, holdsAnswer]
    · cases h
  | handled =>
    simp only [onReader] at h
    split at h
    · next cmd hreader =>
      cases h
      refine ⟨rfl, fun _ => ?_⟩
      simp [AnswerPending, hreader]
    · cases h
  | sendErr =>
    simp only [onReader] at h
    split at h
    · next hreader =>
      cases h
      refine ⟨rfl, fun _ => ?_⟩
      simp [AnswerPending, hreader]
    · cases h
  | _ => cases h

theorem closesClean_ofReader {a : Action} (ha : a.ofReader = true) (s : State) :
    ClosesClean s a := by
  cases a with
  | close => cases ha
  | _ => trivial

/-- A step keeps `Settled` exactly when it closes clean, and none restores
it. -/
theorem settled_step {s t : State} {a : Action} (h : step s a = some t) :
    (Settled s → (Settled t ↔ ClosesClean s a)) ∧ (Settled t → Settled s) := by
  unfold step at h
  split at h
  · next ha =>
    -- the goroutine's step
    obtain ⟨hmain, hpending⟩ := onReader_pending h
    have hclean : ClosesClean s a := closesClean_ofReader ha s
    have hiff : Settled t ↔ Settled s := by
      unfold Settled
      rw [hmain]
      exact forall_congr' fun hret => not_congr (hpending hret)
    exact ⟨fun hs => iff_of_true (hiff.mpr hs) hclean, hiff.mp⟩
  · -- a step of `connectLoop`, which has not returned yet
    obtain ⟨hbefore, hafter, hpending⟩ := onMain_returned h
    have hs : Settled s := fun hret => absurd hret hbefore
    refine ⟨fun _ => ?_, fun _ => hs⟩
    by_cases ha : a = .close
    · have hp := hpending ha
      subst ha
      constructor
      · exact fun ht hpend => ht (hafter.mpr rfl) (hp.mpr hpend)
      · exact fun hclean _ hpend => hclean (hp.mp hpend)
    · refine iff_of_true (fun hret => absurd (hafter.mp hret) ha) ?_
      cases a with
      | close => exact absurd rfl ha
      | _ => trivial

/-- The goroutine alone keeps `Settled`. -/
theorem settled_ofReader {bs : List Action} (hbs : ∀ b ∈ bs, b.ofReader = true) {s t : State}
    (hs : Settled s) (hrun : Machine.run step s bs = some t) : Settled t := by
  induction bs generalizing s with
  | nil =>
    obtain rfl := Option.some.inj hrun
    exact hs
  | cons b bs ih =>
    obtain ⟨u, hu, hrest⟩ := Machine.run_cons_eq_some.mp hrun
    obtain ⟨hb, hbs'⟩ := List.forall_mem_cons.mp hbs
    exact ih hbs' (((settled_step hu).1 hs).mpr (closesClean_ofReader hb s)) hrest

theorem settled_init : Settled init := fun h => by cases h

/-- A pending answer ends in an orphan when the goroutine is left to run. -/
theorem exists_orphaned {s : State} (hmain : s.main = .returned) (hpending : AnswerPending s) :
    ∃ bs t, (∀ b ∈ bs, b.ofReader = true) ∧ Machine.run step s bs = some t ∧ Orphaned t := by
  obtain ⟨main, reader, buffered, readErr⟩ := s
  obtain rfl : main = .returned := hmain
  induction buffered generalizing reader with
  | nil =>
    cases reader with
    | offering packet => exact ⟨[], _, by simp, rfl, rfl, packet, rfl⟩
    | _ => simp [AnswerPending, holdsAnswer] at hpending
  | cons line rest ih =>
    -- from its read, the goroutine comes to the answer
    have hreading : holdsAnswer (line :: rest) = true → ∃ bs t, (∀ b ∈ bs, b.ofReader = true) ∧
        Machine.run step ⟨.returned, .reading, line :: rest, readErr⟩ bs = some t ∧
        Orphaned t := by
      intro hans
      cases line with
      | none => simp [holdsAnswer] at hans
      | some packet =>
        have hread : step ⟨.returned, .reading, some packet :: rest, readErr⟩ .read =
            some ⟨.returned, onPacket packet, rest, readErr⟩ := rfl
        have hrest : AnswerPending ⟨.returned, onPacket packet, rest, readErr⟩ := by
          simp only [holdsAnswer] at hans
          unfold onPacket AnswerPending
          cases hd : dispatch packet <;> simp_all
        obtain ⟨bs, t, hbs, hrun, ht⟩ := ih _ hrest
        refine ⟨.read :: bs, t, ?_, Machine.run_cons_eq_some.mpr ⟨_, hread, hrun⟩, ht⟩
        exact List.forall_mem_cons.mpr ⟨rfl, hbs⟩
    cases reader with
    | offering packet => exact ⟨[], _, by simp, rfl, rfl, packet, rfl⟩
    | reading => exact hreading hpending
    | handling cmd =>
      obtain ⟨bs, t, hbs, hrun, ht⟩ := hreading hpending
      refine ⟨.handled :: bs, t, ?_, Machine.run_cons_eq_some.mpr ⟨_, rfl, hrun⟩, ht⟩
      exact List.forall_mem_cons.mpr ⟨rfl, hbs⟩
    | _ => exact absurd hpending id

/-- An orphan stays: nothing can move any more. -/
theorem orphaned_stuck {s : State} (h : Orphaned s) (a : Action) : step s a = none := by
  obtain ⟨hmain, packet, hreader⟩ := h
  cases a <;> simp [step, Action.ofReader, onMain, onReader, hmain, hreader]

/-- No state of the run has an orphan, nor does the goroutine get there when
it is left to run. -/
structure NoOrphan (as : List Action) (s : State) : Prop where
  during : Machine.Holds step (fun s => ¬ Orphaned s) init as
  after : ∀ bs t, (∀ b ∈ bs, b.ofReader = true) → Machine.run step s bs = some t → ¬ Orphaned t

/-- **No orphaned reader.** Whatever the orchestrator sends, whatever fails
and however `connectLoop` and its goroutine interleave: the goroutine is
never left at its send to `respCh`, during the run or after it, if and only
if `connectLoop` does not close the connection on a pending answer. -/
theorem noOrphan_iff_closesClean (as : List Action) (s : State)
    (hrun : Machine.run step init as = some s) :
    NoOrphan as s ↔ Machine.Meets step ClosesClean init as := by
  have hiff : Machine.Holds step Settled init as ↔ Machine.Meets step ClosesClean init as :=
    Machine.holds_iff_meets (J := fun _ => True) (fun _ _ _ _ _ => trivial)
      (fun _ _ _ _ hs h => (settled_step h).1 hs) trivial settled_init hrun
  rw [← hiff]
  constructor
  · intro h
    -- if the last state is settled, so are those before it
    refine Machine.holds_of_final (fun _ _ _ hst => (settled_step hst).2) hrun ?_
    intro hmain hpending
    obtain ⟨bs, t, hbs, hbrun, ht⟩ := exists_orphaned hmain hpending
    exact h.after bs t hbs hbrun ht
  · intro h
    refine ⟨h.mono fun s hs => hs.not_orphaned, ?_⟩
    intro bs t hbs hbrun
    exact (settled_ofReader hbs (h.final hrun) hbrun).not_orphaned

/-- A session whose register packet is answered. -/
def registered : List Action :=
  [.handshake (some []), .write true, .fill [some { type := packetAuthOK }], .read, .answer]

/-- A session that ends because the orchestrator hangs up. -/
theorem noOrphan_iff_closesClean_hangUp :
    ∃ s, Machine.run step init (registered ++ [.readFails, .sendErr, .readErr, .close]) = some s ∧
      s.main = .returned ∧
      NoOrphan (registered ++ [.readFails, .sendErr, .readErr, .close]) s := by
  refine ⟨_, rfl, rfl, (noOrphan_iff_closesClean _ _ rfl).mpr ?_⟩
  -- the last step is the only one with a condition, and the goroutine has ended
  exact .cons trivial rfl (.cons trivial rfl (.cons trivial rfl (.cons trivial rfl
    (.cons trivial rfl (.cons trivial rfl (.cons trivial rfl (.cons trivial rfl
      (.cons id rfl trivial))))))))

/-- An error packet that no request waits for is taken as the answer to the
next heartbeat; the heartbeat's own answer finds `connectLoop` gone. -/
theorem unawaitedError_orphans :
    ∃ s, Machine.run step init (registered ++
        [.fill [some (newError "unknown message type")], .read, .tick, .write true, .answer,
          .fill [some { type := packetAuthOK }], .read, .close]) = some s ∧
      Orphaned s ∧ ∀ a, step s a = none := by
  have horphan : Orphaned ⟨.returned, .offering { type := packetAuthOK }, [], false⟩ :=
    ⟨rfl, _, rfl⟩
  exact ⟨_, rfl, horphan, orphaned_stuck horphan⟩

end Centralisd.Master.ConnectLoop
