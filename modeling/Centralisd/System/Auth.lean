import Centralisd.Master.Registry
import Centralisd.Orchestrator.Integrity

/-!
# Centralisd — authentication against an adversary on the network

Any number of masters and the orchestrator run together; every client
connection belongs to an adversary who chooses what is read on it. Keys in
honest hands are used by programs that run `slave.Connect` or the master's
`connectLoop`, and those answer whatever challenge packet the adversary lets
them read. A log records the challenges issued, the signatures presented and
the signatures made by honest programs.

The adversary is held to two things (`Admissible`): challenges are never
issued twice, and a signature that is valid under an honest key is one that
the key's holder made for that message.

* `authentication_sound` — what holds of every registered connection: its
  key, its own challenge, the allow-lists, freshness;
* `registered_signed_in_a_role` — the holder of an honest key has signed the
  connection's challenge, in one of its two roles. Which of the two is not
  decided by the handshake: `relay_registers_slave` runs the orchestrator's
  challenge through `slave.Connect`.
-/

namespace Centralisd.Auth

-- ---------------------------------------------------------------------------
-- The network
-- ---------------------------------------------------------------------------

/-- Who serves a connection. -/
inductive Server where
  | master (m : Nat)
  | orchestrator
  deriving DecidableEq, Repr

/-- The two programs that sign challenges. -/
inductive Role where
  | slave
  | master
  deriving DecidableEq, Repr

inductive Event where
  /-- `GenerateChallenge` for a connection -/
  | issued (srv : Server) (c : Nat) (challenge : String)
  /-- an `auth.proof` packet with this signature is read on a connection -/
  | presented (srv : Server) (c : Nat) (signature : String)
  /-- the holder of a key signs a message -/
  | signed (role : Role) (pubKey : Bytes) (message : String) (sig : Bytes)
  deriving DecidableEq, Repr

/-- What is fixed for a run: the primitives, the private keys in honest
hands by public key, and the admission lists of the servers. -/
structure Deployment where
  crypto : Crypto
  holder : Bytes → Option Bytes
  allowedNodes : Nat → Finset String
  masterWhitelist : Orchestrator.Whitelist

/-- What an honest key's signatures are: they verify, and a signature is
valid for one message only. -/
structure Deployment.IdealSignatures (D : Deployment) : Prop where
  signs : ∀ pubKey privKey, D.holder pubKey = some privKey →
    ∀ m, D.crypto.verify pubKey m (D.crypto.sign privKey m) = true
  binds : ∀ pubKey, (D.holder pubKey).isSome → ∀ m m' sig,
    D.crypto.verify pubKey m sig = true → D.crypto.verify pubKey m' sig = true → m = m'

/-- The message a program signs when it reads a challenge packet. -/
def signedMessage (C : Crypto) (privKey : Bytes) (challengePacket : Packet) : Role → Option String
  | .slave => do
    let challenge ← (Slave.readChallenge challengePacket).toOption
    let _ ← (signChallenge C privKey challenge).toOption
    return trimSpace challenge
  | .master => (Master.readChallenge challengePacket).toOption

structure World where
  masters : Nat → Master.State
  orch : Orchestrator.State
  /-- latest first -/
  log : List Event

def init : World := ⟨fun _ => Master.init, Orchestrator.init, []⟩

inductive Action where
  | master (m : Nat) (a : Master.Action)
  | orch (a : Orchestrator.Action)
  /-- a program with an honest key reads a challenge packet and answers it -/
  | sign (role : Role) (pubKey : Bytes) (challengePacket : Packet)

/-- What reading a packet presents. -/
def presentedBy (srv : Server) (c : Nat) (packet : Packet) : List Event :=
  if packet.type = packetAuthProof then
    match decodePayload AuthProof.unmarshal packet with
    | .ok proof => [.presented srv c proof.signature]
    | .error _ => []
  else []

def masterEvents (srv : Server) : Master.Action → List Event
  | .issueChallenge c random _ => [.issued srv c (generateChallenge random)]
  | .readPacket c (some packet) => presentedBy srv c packet
  | _ => []

def orchEvents (srv : Server) : Orchestrator.Action → List Event
  | .issueChallenge c random => [.issued srv c (generateChallenge random)]
  | .readPacket c (some packet) => presentedBy srv c packet
  | _ => []

def signEvents (D : Deployment) (role : Role) (pubKey : Bytes) (challengePacket : Packet) :
    List Event :=
  match D.holder pubKey with
  | none => []
  | some privKey => match signedMessage D.crypto privKey challengePacket role with
    | none => []
    | some m => [.signed role pubKey m (D.crypto.sign privKey m)]

def Action.events (D : Deployment) : Action → List Event
  | .master m a => masterEvents (.master m) a
  | .orch a => orchEvents .orchestrator a
  | .sign role pubKey packet => signEvents D role pubKey packet

def step (D : Deployment) (w : World) : Action → Option World
  | .master m a => (Master.step D.crypto (D.allowedNodes m) (w.masters m) a).map fun s =>
      { w with
        masters := Function.update w.masters m s
        log := masterEvents (.master m) a ++ w.log }
  | .orch a => (Orchestrator.step D.crypto D.masterWhitelist w.orch a).map fun s =>
      { w with orch := s, log := orchEvents .orchestrator a ++ w.log }
  | .sign role pubKey packet =>
      some { w with log := signEvents D role pubKey packet ++ w.log }

/-- Challenges are pairwise distinct, and a presented signature that is valid
under an honest key was made by its holder for that message. -/
def Event.Admissible (D : Deployment) (log : List Event) : Event → Prop
  | .issued _ _ challenge => ∀ srv c, .issued srv c challenge ∉ log
  | .presented _ _ signature => ∀ sig, Base64.decodeString (trimSpace signature) = some sig →
      ∀ pubKey, (D.holder pubKey).isSome → ∀ m, D.crypto.verify pubKey m sig = true →
        ∃ role, .signed role pubKey m sig ∈ log
  | .signed _ _ _ _ => True

def Admissible (D : Deployment) (w : World) (a : Action) : Prop :=
  ∀ e ∈ a.events D, e.Admissible D w.log

variable {D : Deployment}

/-- What a program sends back is the signature the log records. -/
theorem proofPacket_of_signedMessage {C : Crypto} {privKey : Bytes} {p : Packet} {role : Role}
    {m : String} (h : signedMessage C privKey p role = some m) :
    (match role with
      | .slave => Slave.proofPacket C privKey p
      | .master => Master.proofPacket C privKey p) = .ok (signaturePacket (C.sign privKey m)) := by
  have htype : trimSpace packetAuthProof ≠ "" := by decide
  cases role with
  | slave =>
    -- `SignChallenge` signs the trimmed challenge
    simp only [signedMessage, Option.bind_eq_bind, Option.bind_eq_some_iff] at h
    obtain ⟨challenge, hread, sigStr, hsign, hm⟩ := h
    cases hr : Slave.readChallenge p with
    | error e => simp [hr, Except.toOption] at hread
    | ok ch =>
      rw [hr] at hread
      obtain rfl : ch = challenge := by simpa [Except.toOption] using hread
      obtain rfl : trimSpace ch = m := by simpa using hm
      cases hsc : signChallenge C privKey ch with
      | error e => simp [hsc, Except.toOption] at hsign
      | ok out =>
        obtain ⟨-, -, rfl⟩ := signChallenge_eq_ok.mp hsc
        simp only [Slave.proofPacket, hr]
        show (signChallenge C privKey ch).bind _ = _
        rw [hsc]
        exact newPacket_ok htype _
  | master =>
    -- `connectLoop` signs the challenge as it was read
    simp only [signedMessage] at h
    cases hr : Master.readChallenge p with
    | error e => simp [hr, Except.toOption] at h
    | ok ch =>
      rw [hr] at h
      obtain rfl : ch = m := by simpa [Except.toOption] using h
      simp only [Master.proofPacket, hr]
      exact newPacket_ok htype _

-- ---------------------------------------------------------------------------
-- What a step adds to the log
-- ---------------------------------------------------------------------------

theorem log_step {w w' : World} {a : Action} (h : step D w a = some w') :
    w'.log = a.events D ++ w.log := by
  cases a with
  | master m a =>
    obtain ⟨s, -, rfl⟩ := Option.map_eq_some_iff.mp h
    rfl
  | orch a =>
    obtain ⟨s, -, rfl⟩ := Option.map_eq_some_iff.mp h
    rfl
  | sign role pubKey packet =>
    cases h
    rfl

/-- What reading a packet presents is at most one signature. -/
theorem presentedBy_eq {srv : Server} {c : Nat} {p : Packet} {e : Event}
    (h : e ∈ presentedBy srv c p) :
    presentedBy srv c p = [e] ∧ ∃ sig, e = .presented srv c sig := by
  unfold presentedBy at h ⊢
  split at h
  · next htype =>
    rw [if_pos htype]
    split at h
    · next proof hdec =>
      obtain rfl := List.mem_singleton.mp h
      exact ⟨rfl, proof.signature, rfl⟩
    · -- a proof packet that does not decode
      exact absurd h List.not_mem_nil
  · -- a packet of another type
    exact absurd h List.not_mem_nil

theorem presentedBy_of_decode {srv : Server} {c : Nat} {p : Packet} {sig : String}
    (htype : p.type = packetAuthProof)
    (hdec : decodePayload AuthProof.unmarshal p = .ok ⟨sig⟩) :
    .presented srv c sig ∈ presentedBy srv c p := by
  rw [presentedBy, if_pos htype, hdec]
  exact List.mem_singleton_self _

/-- The signature of a signing event is the one the holder's key yields. -/
def Event.MadeByHolder (D : Deployment) : Event → Prop
  | .signed _ pubKey m sig =>
    ∃ privKey, D.holder pubKey = some privKey ∧ sig = D.crypto.sign privKey m
  | _ => True

/-- A step has at most one event, and signs with the holder's key. -/
theorem events_eq {a : Action} {e : Event} (h : e ∈ a.events D) :
    a.events D = [e] ∧ e.MadeByHolder D := by
  have hread : ∀ srv c p, e ∈ presentedBy srv c p →
      presentedBy srv c p = [e] ∧ e.MadeByHolder D := by
    intro srv c p he
    obtain ⟨heq, sig, rfl⟩ := presentedBy_eq he
    exact ⟨heq, trivial⟩
  cases a with
  | master m a =>
    cases a with
    | issueChallenge n random written =>
      obtain rfl := List.mem_singleton.mp h
      exact ⟨rfl, trivial⟩
    | readPacket n result =>
      cases result with
      | none => exact absurd h List.not_mem_nil
      | some p => exact hread _ _ _ h
    | _ => exact absurd h List.not_mem_nil
  | orch a =>
    cases a with
    | issueChallenge n random =>
      obtain rfl := List.mem_singleton.mp h
      exact ⟨rfl, trivial⟩
    | readPacket n result =>
      cases result with
      | none => exact absurd h List.not_mem_nil
      | some p => exact hread _ _ _ h
    | _ => exact absurd h List.not_mem_nil
  | sign role pubKey packet =>
    -- only a holder signs, and only a packet its program accepts
    simp only [Action.events, signEvents] at h ⊢
    cases hholder : D.holder pubKey with
    | none => simp [hholder] at h
    | some privKey =>
      simp only [hholder] at h ⊢
      cases hm : signedMessage D.crypto privKey packet role with
      | none => simp [hm] at h
      | some m =>
        simp only [hm] at h ⊢
        obtain rfl := List.mem_singleton.mp h
        exact ⟨rfl, privKey, hholder, rfl⟩

-- ---------------------------------------------------------------------------
-- What a handler knows of its client
--
-- The two handshakes differ in their order of steps; what matters of a
-- handler here is the challenge it has issued and the credentials it has
-- accepted.
-- ---------------------------------------------------------------------------

inductive View where
  | idle
  | challenged (challenge : String)
  | accepted (cr : Credentials)

def masterView : Master.Phase → View
  | .proof _ _ challenge => .challenged challenge
  | .verified cr => .accepted cr
  | .serving cr => .accepted cr
  | .leaving cr => .accepted cr
  | _ => .idle

def orchView : Orchestrator.Phase → View
  | .auth challenge => .challenged challenge
  | .proof challenge _ => .challenged challenge
  | .verified cr => .accepted cr
  | .loop cr _ => .accepted cr
  | .leaving cr => .accepted cr
  | _ => .idle

def World.view (w : World) (srv : Server) (c : Nat) : View :=
  match srv with
  | .master m => (((w.masters m).phase c).map masterView).getD .idle
  | .orchestrator => ((w.orch.phase c).map orchView).getD .idle

/-- What a step with the given events can do to a handler's view. -/
inductive ViewStep (events : List Event) (srv : Server) (c : Nat) : View → View → Prop
  | keep (v) : ViewStep events srv c v v
  | drop (v) : ViewStep events srv c v .idle
  | issue {v challenge} (h : .issued srv c challenge ∈ events) :
      ViewStep events srv c v (.challenged challenge)
  | accept (cr : Credentials) (h : .presented srv c cr.signature ∈ events) :
      ViewStep events srv c (.challenged cr.challenge) (.accepted cr)

theorem masterMoves_view {C : Crypto} {allowedNodes : Finset String} {srv : Server} {c : Nat}
    {a : Master.Action} {ph : Option Master.Phase} {p : Master.Phase}
    (hm : Master.Moves C allowedNodes c a ph p) :
    ViewStep (masterEvents srv a) srv c ((ph.map masterView).getD .idle) (masterView p) := by
  cases hm with
  | challenge h => exact .issue (List.mem_singleton_self _)
  | proof h =>
    -- accepted: the signature was in the packet just read
    rename_i p authHello pubKey challenge sig
    obtain ⟨htype, hdec, -⟩ := Master.checkAuthProof_ok authHello h
    exact .accept ⟨authHello, pubKey, challenge, sig⟩ (presentedBy_of_decode htype hdec)
  | accept => exact .keep _
  | hello line => exact .keep _
  | auth h => exact .drop _
  | verifyPanic h => exact .drop _
  | nilNode h => exact .drop _
  | reject h ha => exact .drop _
  | heartbeatFailed => exact .keep _

theorem orchMoves_view {C : Crypto} {masterWhitelist : Orchestrator.Whitelist} {srv : Server}
    {c : Nat} {a : Orchestrator.Action} {ph : Option Orchestrator.Phase} {p : Orchestrator.Phase}
    (hm : Orchestrator.Moves C masterWhitelist c a ph p) :
    ViewStep (orchEvents srv a) srv c ((ph.map orchView).getD .idle) (orchView p) := by
  cases hm with
  | challenge h => exact .issue (List.mem_singleton_self _)
  | accept => exact .keep _
  | hello line => exact .keep _
  | auth h => exact .keep _
  | verifyPanic h => exact .drop _
  | reject h ha => exact .drop _
  | readError => exact .keep _
  | inLoop h => exact .keep _

/-- One handler moved, the others stayed. -/
theorem viewStep_update {P : Type} (view : P → View) {events : List Event} {srv : Server}
    {phase : Nat → Option P} {c : Nat} {p : P}
    (h : ViewStep events srv c (((phase c).map view).getD .idle) (view p)) (c' : Nat) :
    ViewStep events srv c' (((phase c').map view).getD .idle)
      (((Function.update phase c (some p) c').map view).getD .idle) := by
  by_cases hc : c' = c
  · -- the handler that moved
    subst hc
    rw [Function.update_self]
    exact h
  · -- any other
    rw [Function.update_of_ne hc]
    exact .keep _

theorem masterStep_view {C : Crypto} {allowedNodes : Finset String} {srv : Server}
    {s t : Master.State} {a : Master.Action} (h : Master.step C allowedNodes s a = some t)
    (c : Nat) :
    ViewStep (masterEvents srv a) srv c (((s.phase c).map masterView).getD .idle)
      (((t.phase c).map masterView).getD .idle) := by
  cases Master.step_cases h with
  | move hm => exact viewStep_update masterView (masterMoves_view hm) c
  | register hph hid =>
    refine viewStep_update masterView ?_ c
    rw [hph]
    exact .keep _
  | answered => exact .keep _
  | unregister hph => exact viewStep_update masterView (.drop _) c

theorem orchStep_view {C : Crypto} {masterWhitelist : Orchestrator.Whitelist} {srv : Server}
    {s t : Orchestrator.State} {a : Orchestrator.Action}
    (hs : Orchestrator.Inv C masterWhitelist s)
    (h : Orchestrator.step C masterWhitelist s a = some t) (c : Nat) :
    ViewStep (orchEvents srv a) srv c (((s.phase c).map orchView).getD .idle)
      (((t.phase c).map orchView).getD .idle) := by
  cases Orchestrator.step_cases h with
  | move hm => exact viewStep_update orchView (orchMoves_view hm) c
  | verify hph hcheck =>
    -- the credentials' signature is the one in the packet just read
    rename_i n p challenge authHello cr
    refine viewStep_update orchView ?_ c
    obtain ⟨sig, htype, hdec, rfl, -⟩ := Orchestrator.checkAuthProof_ok (hs.phase n _ hph) hcheck
    rw [hph]
    exact .accept (Orchestrator.credentials authHello challenge sig)
      (presentedBy_of_decode htype hdec)
  | receive hph =>
    refine viewStep_update orchView ?_ c
    rw [hph]
    exact .keep _
  | register hph =>
    refine viewStep_update orchView ?_ c
    rw [hph]
    exact .keep _
  | resolve hph hres =>
    refine viewStep_update orchView ?_ c
    rw [hph]
    exact .keep _
  | store hph =>
    refine viewStep_update orchView ?_ c
    rw [hph]
    exact .keep _
  | unregister hph => exact viewStep_update orchView (.drop _) c
  | pendInsert => exact .keep _
  | pendDelete => exact .keep _

theorem view_step {w w' : World} {a : Action}
    (horch : Orchestrator.Inv D.crypto D.masterWhitelist w.orch) (h : step D w a = some w')
    (srv : Server) (c : Nat) : ViewStep (a.events D) srv c (w.view srv c) (w'.view srv c) := by
  cases a with
  | master m a =>
    obtain ⟨s, hs, rfl⟩ := Option.map_eq_some_iff.mp h
    -- a step of one server leaves the handlers of the others alone
    cases srv with
    | orchestrator => exact .keep _
    | master m' =>
      by_cases hm : m' = m
      · subst hm
        simp only [World.view, Function.update_self]
        exact masterStep_view hs c
      · simp only [World.view, Function.update_of_ne hm]
        exact .keep _
  | orch a =>
    obtain ⟨s, hs, rfl⟩ := Option.map_eq_some_iff.mp h
    cases srv with
    | orchestrator => exact orchStep_view horch hs c
    | master m => exact .keep _
  | sign role pubKey packet =>
    cases h
    exact .keep _

-- ---------------------------------------------------------------------------
-- The invariant of admissible runs
-- ---------------------------------------------------------------------------

/-- The signature of the credentials was presented on the connection after
its challenge was issued; under an honest key, the holder made it for that
challenge. -/
structure Backed (D : Deployment) (log : List Event) (srv : Server) (c : Nat) (cr : Credentials) :
    Prop where
  presented : ∃ later earlier, log = later ++ .presented srv c cr.signature :: earlier ∧
    .issued srv c cr.challenge ∈ earlier
  signed : (D.holder cr.pubKey).isSome → ∀ sig,
    Base64.decodeString (trimSpace cr.signature) = some sig →
    D.crypto.verify cr.pubKey cr.challenge sig = true →
    ∃ role, .signed role cr.pubKey cr.challenge sig ∈ log

def ViewOK (D : Deployment) (log : List Event) (srv : Server) (c : Nat) : View → Prop
  | .idle => True
  | .challenged challenge => .issued srv c challenge ∈ log
  | .accepted cr => Backed D log srv c cr

structure Inv (D : Deployment) (w : World) : Prop where
  masters : ∀ m, Master.Inv D.crypto (D.allowedNodes m) (w.masters m)
  orch : Orchestrator.Inv D.crypto D.masterWhitelist w.orch
  views : ∀ srv c, ViewOK D w.log srv c (w.view srv c)
  issuedOnce : ∀ srv c srv' c' challenge, .issued srv c challenge ∈ w.log →
    .issued srv' c' challenge ∈ w.log → srv' = srv ∧ c' = c
  made : ∀ e ∈ w.log, e.MadeByHolder D

theorem inv_init : Inv D init where
  masters := fun _ => Master.inv_init
  orch := Orchestrator.inv_init
  views := fun srv c => by cases srv <;> trivial
  issuedOnce := fun _ _ _ _ _ h => absurd h List.not_mem_nil
  made := fun _ h => absurd h List.not_mem_nil

theorem Backed.mono {log : List Event} {srv : Server} {c : Nat} {cr : Credentials}
    (h : Backed D log srv c cr) (events : List Event) : Backed D (events ++ log) srv c cr where
  presented := by
    obtain ⟨later, earlier, rfl, hissued⟩ := h.presented
    exact ⟨events ++ later, earlier, by rw [List.append_assoc], hissued⟩
  signed := by
    intro hholder sig hsig hverify
    obtain ⟨role, hrole⟩ := h.signed hholder sig hsig hverify
    exact ⟨role, List.mem_append_right _ hrole⟩

theorem ViewOK.mono {log : List Event} {srv : Server} {c : Nat} {v : View}
    (h : ViewOK D log srv c v) (events : List Event) : ViewOK D (events ++ log) srv c v := by
  cases v with
  | idle => trivial
  | challenged challenge => exact List.mem_append_right _ h
  | accepted cr => exact Backed.mono h events

/-- An admissible step keeps what the views say: when credentials are
accepted, the challenge is already in the log, and so is the signing of an
honest key. -/
theorem ViewStep.viewOK {log events : List Event} {srv : Server} {c : Nat} {v v' : View}
    (hstep : ViewStep events srv c v v') (hv : ViewOK D log srv c v)
    (hadm : ∀ e ∈ events, e.Admissible D log) : ViewOK D (events ++ log) srv c v' := by
  cases hstep with
  | keep => exact hv.mono events
  | drop => trivial
  | issue h => exact List.mem_append_left _ h
  | accept cr h =>
    constructor
    · -- the challenge was in the log before this step
      obtain ⟨later, earlier, rfl⟩ := List.append_of_mem h
      exact ⟨later, earlier ++ log, by simp, List.mem_append_right _ hv⟩
    · -- and an honest key's signature cannot be presented before it is made
      intro hholder sig hsig hverify
      obtain ⟨role, hrole⟩ := hadm _ h sig hsig cr.pubKey hholder cr.challenge hverify
      exact ⟨role, List.mem_append_right _ hrole⟩

theorem inv_step {w w' : World} {a : Action} (hw : Inv D w) (hadm : Admissible D w a)
    (h : step D w a = some w') : Inv D w' where
  masters := by
    intro m
    cases a with
    | master m' a =>
      obtain ⟨s, hs, rfl⟩ := Option.map_eq_some_iff.mp h
      by_cases hm : m = m'
      · subst hm
        simp only [Function.update_self]
        exact Master.inv_step (hw.masters m) hs
      · simp only [Function.update_of_ne hm]
        exact hw.masters m
    | orch a =>
      obtain ⟨s, -, rfl⟩ := Option.map_eq_some_iff.mp h
      exact hw.masters m
    | sign role pubKey packet =>
      cases h
      exact hw.masters m
  orch := by
    cases a with
    | master m a =>
      obtain ⟨s, -, rfl⟩ := Option.map_eq_some_iff.mp h
      exact hw.orch
    | orch a =>
      obtain ⟨s, hs, rfl⟩ := Option.map_eq_some_iff.mp h
      exact Orchestrator.inv_step hw.orch hs
    | sign role pubKey packet =>
      cases h
      exact hw.orch
  views := by
    intro srv c
    rw [log_step h]
    exact (view_step hw.orch h srv c).viewOK (hw.views srv c) hadm
  issuedOnce := by
    intro srv c srv' c' challenge hc hc'
    rw [log_step h] at hc hc'
    rcases List.mem_append.mp hc with hc | hc <;> rcases List.mem_append.mp hc' with hc' | hc'
    · -- both issued by this step, which has one event
      have heq := (events_eq hc).1.symm.trans (events_eq hc').1
      simp only [List.cons.injEq, Event.issued.injEq, and_true] at heq
      exact ⟨heq.1.symm, heq.2.symm⟩
    · -- one now and one before: random challenges do not repeat
      exact absurd hc' (hadm _ hc srv' c')
    · exact absurd hc (hadm _ hc' srv c)
    · exact hw.issuedOnce srv c srv' c' challenge hc hc'
  made := by
    intro e he
    rw [log_step h] at he
    rcases List.mem_append.mp he with he | he
    · exact (events_eq he).2
    · exact hw.made e he

theorem inv_run {w : World} {as : List Action} (hadm : Machine.Meets (step D) (Admissible D) init as)
    (h : Machine.run (step D) init as = some w) : Inv D w :=
  Machine.run_invariant_of_meets (fun _ _ _ hw hok hst => inv_step hw hok hst) inv_init hadm h

-- ---------------------------------------------------------------------------
-- Soundness
-- ---------------------------------------------------------------------------

/-- What is known of a connection registered under `i` with credentials
`cr`. -/
structure Authenticated (D : Deployment) (log : List Event) (srv : Server) (c : Nat) (i : String)
    (cr : Credentials) : Prop where
  /-- the key has 32 bytes and its ID is the trimmed `i` -/
  key : cr.pubKey.length = publicKeySize ∧ keyID D.crypto cr.pubKey = trimSpace i
  /-- a signature over the connection's challenge, valid under the key, was
  presented on the connection after the challenge was issued to it -/
  signature : ∃ sig later earlier, Base64.decodeString (trimSpace cr.signature) = some sig ∧
    D.crypto.verify cr.pubKey cr.challenge sig = true ∧
    log = later ++ .presented srv c cr.signature :: earlier ∧
    .issued srv c cr.challenge ∈ earlier
  /-- the challenge is no other connection's -/
  own : ∀ srv' c', .issued srv' c' cr.challenge ∈ log → srv' = srv ∧ c' = c
  /-- of an honest key, that signature was made by the holder, for this
  challenge and for no other message -/
  honest : (D.holder cr.pubKey).isSome → ∀ sig,
    Base64.decodeString (trimSpace cr.signature) = some sig →
    (∃ role, .signed role cr.pubKey cr.challenge sig ∈ log) ∧
    ∀ role m, .signed role cr.pubKey m sig ∈ log → m = cr.challenge

theorem Inv.backed {w : World} (hw : Inv D w) {srv : Server} {c : Nat} {cr : Credentials}
    (h : w.view srv c = .accepted cr) : Backed D w.log srv c cr := by
  have hview := hw.views srv c
  rwa [h] at hview

theorem Inv.authenticated {w : World} (hw : Inv D w) (hideal : D.IdealSignatures) {srv : Server}
    {c : Nat} {cr : Credentials} {i : String} (hview : w.view srv c = .accepted cr)
    (hid : trimSpace i = keyID D.crypto cr.pubKey) (hproven : cr.Proven D.crypto) :
    Authenticated D w.log srv c i cr := by
  have hback := hw.backed hview
  obtain ⟨hlen, sig, hsig, hverify⟩ := hproven
  obtain ⟨later, earlier, hlog, hissued⟩ := hback.presented
  refine ⟨⟨hlen, hid.symm⟩, ⟨sig, later, earlier, hsig, hverify, hlog, hissued⟩, ?_, ?_⟩
  · -- a challenge is issued once
    intro srv' c' hc'
    refine hw.issuedOnce srv c srv' c' cr.challenge ?_ hc'
    rw [hlog]
    exact List.mem_append_right _ (List.mem_cons_of_mem _ hissued)
  · intro hholder sig' hsig'
    obtain rfl := Option.some.inj (hsig.symm.trans hsig')
    refine ⟨hback.signed hholder sig hsig hverify, fun role m hm => ?_⟩
    -- the holder's signature verifies for what it signed, so that is the challenge
    obtain ⟨privKey, hpriv, hsign⟩ := hw.made _ hm
    have hverify' := hideal.signs cr.pubKey privKey hpriv m
    rw [← hsign] at hverify'
    exact hideal.binds cr.pubKey hholder m cr.challenge sig hverify' hverify

theorem view_of_masterSession {w : World} {m c : Nat} {cr : Credentials}
    (h : (w.masters m).session c = some cr) : w.view (.master m) c = .accepted cr := by
  obtain ⟨p, hp, hcr⟩ := Option.bind_eq_some_iff.mp h
  simp only [World.view, hp, Option.map_some, Option.getD_some]
  cases p <;> simp_all [Master.Phase.active, masterView]

theorem view_of_orchSession {w : World} {c : Nat} {cr : Credentials}
    (h : w.orch.session c = some cr) : w.view .orchestrator c = .accepted cr := by
  obtain ⟨p, hp, hcr⟩ := Option.bind_eq_some_iff.mp h
  simp only [World.view, hp, Option.map_some, Option.getD_some]
  cases p <;> simp_all [Orchestrator.Phase.active, orchView]

/-- **Authentication soundness.** For any number of servers and sessions,
whatever the adversary sends, in every reachable state: a connection is
registered under an ID only if it authenticated for it on its own challenge
(`Authenticated`) and the admission list of its server has it; nothing is
registered under the empty ID, and no handler has panicked. -/
theorem authentication_sound (D : Deployment) (hideal : D.IdealSignatures) (as : List Action)
    (w : World) (hadm : Machine.Meets (step D) (Admissible D) init as)
    (hrun : Machine.run (step D) init as = some w) :
    (∀ m i c, (w.masters m).nodes.owner i = some c →
      i ≠ "" ∧ ∃ cr, (w.masters m).session c = some cr ∧ cr.hello.id = i ∧
        Authenticated D w.log (.master m) c i cr ∧
        (0 < (D.allowedNodes m).card → i ∈ D.allowedNodes m)) ∧
    (∀ i c, w.orch.conns.owner i = some c →
      i ≠ "" ∧ ∃ cr, w.orch.session c = some cr ∧ cr.hello.id = i ∧
        Authenticated D w.log .orchestrator c i cr ∧
        (0 < D.masterWhitelist.entries.length →
          ∃ clusterSet, D.masterWhitelist.lookup cr.hello.cluster = some clusterSet ∧
            i ∈ clusterSet)) ∧
    (∀ m c, (w.masters m).phase c ≠ some .panicked) ∧
    (∀ c, w.orch.phase c ≠ some .panicked) := by
  have hw := inv_run hadm hrun
  refine ⟨?_, ?_, fun m c h => (hw.masters m).phase c _ h, fun c h => hw.orch.phase c _ h⟩
  · -- a slave in a master's registry
    intro m i c h
    obtain ⟨cr, hcr, rfl⟩ := (hw.masters m).session_of_owner h
    have hok := (hw.masters m).credentialsOK hcr
    exact ⟨hok.id_ne_empty, cr, hcr, rfl,
      hw.authenticated hideal (view_of_masterSession hcr) hok.hello.id hok.proven,
      hok.hello.allowed⟩
  · -- a master in `masterConns`
    intro i c h
    obtain ⟨cr, hcr, rfl⟩ := hw.orch.session_of_owner h
    have hok := hw.orch.credentialsOK hcr
    exact ⟨hok.id_ne_empty, cr, hcr, rfl,
      hw.authenticated hideal (view_of_orchSession hcr) hok.verified.1 hok.verified.2,
      Orchestrator.admitsMaster_ok hok.admitted⟩

-- ---------------------------------------------------------------------------
-- Roles
--
-- A signature says nothing of the program that made it: both programs sign
-- the bare challenge.
-- ---------------------------------------------------------------------------

/-- **A registered honest key has signed the challenge.** Under the same
adversary, a connection is registered with an honest key only if the hello
named the role its server asks for and the key's holder signed exactly the
connection's challenge, in one of its two roles; in the server's own role
when the holder has not signed that challenge in the other one. -/
theorem registered_signed_in_a_role (D : Deployment) (as : List Action) (w : World)
    (hadm : Machine.Meets (step D) (Admissible D) init as)
    (hrun : Machine.run (step D) init as = some w) :
    (∀ i c cr, w.orch.conns.owner i = some c → w.orch.session c = some cr →
      (D.holder cr.pubKey).isSome →
        cr.hello.role = "master" ∧
        (∃ role sig, .signed role cr.pubKey cr.challenge sig ∈ w.log) ∧
        ((∀ sig, .signed .slave cr.pubKey cr.challenge sig ∉ w.log) →
          ∃ sig, .signed .master cr.pubKey cr.challenge sig ∈ w.log)) ∧
    (∀ m i c cr, (w.masters m).nodes.owner i = some c → (w.masters m).session c = some cr →
      (D.holder cr.pubKey).isSome →
        cr.hello.role = "slave" ∧
        (∃ role sig, .signed role cr.pubKey cr.challenge sig ∈ w.log) ∧
        ((∀ sig, .signed .master cr.pubKey cr.challenge sig ∉ w.log) →
          ∃ sig, .signed .slave cr.pubKey cr.challenge sig ∈ w.log)) := by
  have hw := inv_run hadm hrun
  have hsigned : ∀ srv c cr, w.view srv c = .accepted cr → cr.Proven D.crypto →
      (D.holder cr.pubKey).isSome → ∃ role sig, .signed role cr.pubKey cr.challenge sig ∈ w.log := by
    rintro srv c cr hview ⟨-, sig, hsig, hverify⟩ hholder
    obtain ⟨role, hrole⟩ := (hw.backed hview).signed hholder sig hsig hverify
    exact ⟨role, sig, hrole⟩
  constructor
  · -- the orchestrator asks for masters
    rintro i c cr - hcr hholder
    have hok := hw.orch.credentialsOK hcr
    have hs := hsigned _ _ _ (view_of_orchSession hcr) hok.verified.2 hholder
    refine ⟨hok.role, hs, fun hnone => ?_⟩
    obtain ⟨role, sig, hsig⟩ := hs
    cases role with
    | slave => exact absurd hsig (hnone sig)
    | master => exact ⟨sig, hsig⟩
  · -- a master asks for slaves
    rintro m i c cr - hcr hholder
    have hok := (hw.masters m).credentialsOK hcr
    have hs := hsigned _ _ _ (view_of_masterSession hcr) hok.proven hholder
    refine ⟨hok.hello.role, hs, fun hnone => ?_⟩
    obtain ⟨role, sig, hsig⟩ := hs
    cases role with
    | slave => exact ⟨sig, hsig⟩
    | master => exact absurd hsig (hnone sig)

-- ---------------------------------------------------------------------------
-- The log of a run
-- ---------------------------------------------------------------------------

theorem log_run {w w' : World} {as : List Action} (h : Machine.run (step D) w as = some w') :
    w'.log = as.foldl (fun log a => a.events D ++ log) w.log := by
  induction as generalizing w with
  | nil =>
    rw [Machine.run_nil, Option.some.injEq] at h
    rw [← h, List.foldl_nil]
  | cons a as ih =>
    obtain ⟨u, hu, hrest⟩ := Machine.run_cons_eq_some.mp h
    rw [ih hrest, log_step hu, List.foldl_cons]

/-- Every event of the actions is admissible, by the log alone. -/
def AdmissibleFrom (D : Deployment) : List Event → List Action → Prop
  | _, [] => True
  | log, a :: as => (∀ e ∈ a.events D, e.Admissible D log) ∧ AdmissibleFrom D (a.events D ++ log) as

theorem meets_of_admissibleFrom {w : World} {as : List Action}
    (h : AdmissibleFrom D w.log as) : Machine.Meets (step D) (Admissible D) w as := by
  induction as generalizing w with
  | nil => trivial
  | cons a as ih =>
    refine ⟨h.1, fun u hu => ih ?_⟩
    rw [log_step hu]
    exact h.2

/-- The orchestrator's own runs are runs of the network. -/
theorem run_orch {w : World} {as : List Orchestrator.Action} {t : Orchestrator.State}
    (h : Machine.run (Orchestrator.step D.crypto D.masterWhitelist) w.orch as = some t) :
    ∃ w', Machine.run (step D) w (as.map .orch) = some w' ∧ w'.orch = t := by
  induction as generalizing w with
  | nil =>
    rw [Machine.run_nil, Option.some.injEq] at h
    exact ⟨w, rfl, h⟩
  | cons a as ih =>
    obtain ⟨u, hu, hrest⟩ := Machine.run_cons_eq_some.mp h
    obtain ⟨w', hw', ht⟩ := ih
      (w := { w with orch := u, log := orchEvents .orchestrator a ++ w.log }) hrest
    refine ⟨w', ?_, ht⟩
    rw [List.map_cons, Machine.run_cons_eq_some]
    refine ⟨_, ?_, hw'⟩
    rw [step, hu, Option.map_some]

-- ---------------------------------------------------------------------------
-- The relay
--
-- A client of the orchestrator passes the challenge it was issued on to a
-- slave, as if it were the slave's master, and returns the slave's answer as a
-- master's.
-- ---------------------------------------------------------------------------

/-- One honest key, no admission lists. -/
def demoDeployment : Deployment where
  crypto := Crypto.transparent
  holder := fun pubKey => if pubKey = demoKey then some demoKey else none
  allowedNodes := fun _ => ∅
  masterWhitelist := ∅

theorem demoDeployment_ideal : demoDeployment.IdealSignatures where
  signs := by
    intro pubKey privKey h m
    simp only [demoDeployment] at h ⊢
    split at h
    · next hkey =>
      cases h
      exact hkey ▸ Crypto.transparent_verify demoKey m
    · cases h
  binds := fun pubKey _ m m' sig h h' => Crypto.transparent_binds h h'

def relayRandom : Bytes := List.replicate 64 0

/-- The signature the slave makes for the orchestrator's challenge. -/
def relaySig : Bytes := Crypto.transparent.sign demoKey (generateChallenge relayRandom)

def relayHello : AuthHello := Master.authHello Orchestrator.demoInfo demoKey

/-- The client's steps up to its challenge. -/
def relayChallenged : List Orchestrator.Action :=
  [.accept 0, .readHello 0 (some headerOrchestrator), .issueChallenge 0 relayRandom]

/-- The client's steps with the answer. -/
def relayAnswered : List Orchestrator.Action :=
  [.readPacket 0 (some (helloPacket relayHello)),
    .readPacket 0 (some (signaturePacket relaySig)), .registerMasterConn 0]

/-- The slave's step falls between the two halves of the client's. -/
def relayActions : List Action :=
  relayChallenged.map .orch ++
    (.sign .slave demoKey (Orchestrator.challengePacket (generateChallenge relayRandom)) ::
      relayAnswered.map .orch)

/-- The log of the relay. -/
def relayLog : List Event :=
  [.presented .orchestrator 0 (Base64.encodeToString relaySig),
    .signed .slave demoKey (generateChallenge relayRandom) relaySig,
    .issued .orchestrator 0 (generateChallenge relayRandom)]

theorem signEvents_relay :
    signEvents demoDeployment .slave demoKey
        (Orchestrator.challengePacket (generateChallenge relayRandom)) =
      [.signed .slave demoKey (generateChallenge relayRandom) relaySig] := by
  have hread : Slave.readChallenge (Orchestrator.challengePacket (generateChallenge relayRandom)) =
      .ok (generateChallenge relayRandom) := by
    rw [Slave.readChallenge, Orchestrator.challengePacket, if_neg (by decide),
      if_neg (by decide), decodePayload_some rfl (AuthChallenge.unmarshal_marshal _)]
    rfl
  have hsign : signChallenge Crypto.transparent demoKey (generateChallenge relayRandom) =
      .ok (Base64.encodeToString relaySig) := by
    rw [signChallenge_eq_ok, trimSpace_generateChallenge]
    exact ⟨by decide, generateChallenge_ne_empty rfl, rfl⟩
  simp [signEvents, demoDeployment, signedMessage, hread, hsign, Except.toOption, relaySig]

theorem presentedBy_relay :
    presentedBy .orchestrator 0 (signaturePacket relaySig) =
      [.presented .orchestrator 0 (Base64.encodeToString relaySig)] := by
  rw [presentedBy, signaturePacket, if_pos rfl,
    decodePayload_some rfl (AuthProof.unmarshal_marshal _)]

/-- The relay is admissible: the one signature presented is the slave's. -/
theorem relay_admissible :
    Machine.Meets (step demoDeployment) (Admissible demoDeployment) init relayActions := by
  apply meets_of_admissibleFrom
  have hhello : presentedBy .orchestrator 0 (helloPacket relayHello) = [] := rfl
  simp only [relayActions, relayChallenged, relayAnswered, List.map_cons, List.map_nil,
    List.cons_append, AdmissibleFrom, Action.events, orchEvents, signEvents_relay,
    presentedBy_relay, hhello, List.not_mem_nil, false_implies, implies_true, List.mem_singleton,
    forall_eq, true_and, and_true, init, List.nil_append]
  refine ⟨fun srv c => List.not_mem_nil, trivial, ?_⟩
  -- the presented signature is valid for the challenge only, which the slave signed
  intro sig hsig pubKey hholder m hverify
  rw [Base64.trimSpace_encodeToString, Base64.decodeString_encodeToString,
    Option.some.injEq] at hsig
  subst hsig
  obtain rfl : pubKey = demoKey := by
    by_contra hne
    simp [demoDeployment, hne] at hholder
  obtain rfl := Crypto.transparent_binds (Crypto.transparent_verify demoKey _) hverify
  exact ⟨.slave, List.mem_cons_self⟩

theorem run_relayActions :
    ∃ w, Machine.run (step demoDeployment) init relayActions = some w ∧
      w.orch.conns.owner Orchestrator.demoInfo.id = some 0 ∧
      w.orch.session 0 = some ⟨relayHello, demoKey, generateChallenge relayRandom,
        Base64.encodeToString relaySig⟩ ∧
      w.log = relayLog := by
  obtain ⟨t, ht, ht0, -, htc, -, -⟩ :=
    Orchestrator.run_clientActions (C := Crypto.transparent) (s := Orchestrator.init) (c := 0)
      relayHello ∅ rfl rfl (Base64.decodeString_encodeToString demoKey) (trimSpace_keyID _ _) rfl
      (by decide) (List.length_replicate ..) (Crypto.transparent_verify demoKey _)
  have hrun : Machine.run (Orchestrator.step Crypto.transparent ∅) Orchestrator.init
      (relayChallenged ++ relayAnswered) = some t := ht
  -- the slave's step goes between the two halves, and touches only the log
  rw [Machine.run_append, Option.bind_eq_some_iff] at hrun
  obtain ⟨u, hu, hrest⟩ := hrun
  obtain ⟨w, hw, hwu⟩ := run_orch (D := demoDeployment) (w := init) hu
  obtain ⟨w', hw', ht'⟩ := run_orch (D := demoDeployment)
    (w := { w with log := .signed .slave demoKey (generateChallenge relayRandom) relaySig :: w.log })
    (by rw [hwu]; exact hrest)
  have hrelay : Machine.run (step demoDeployment) init relayActions = some w' := by
    rw [relayActions, Machine.run_append, hw, Option.bind_some, Machine.run_cons_eq_some]
    refine ⟨_, rfl, ?_⟩
    rw [signEvents_relay]
    exact hw'
  refine ⟨w', hrelay, ?_, ?_, ?_⟩
  · rw [ht', htc]
    exact KeyedTable.owner_register ..
  · rw [Orchestrator.State.session, ht', ht0]
    rfl
  · have hhello : presentedBy .orchestrator 0 (helloPacket relayHello) = [] := rfl
    rw [log_run hrelay]
    simp only [relayActions, relayChallenged, relayAnswered, List.map_cons, List.map_nil,
      List.cons_append, List.foldl_cons, List.foldl_nil, Action.events, orchEvents,
      signEvents_relay, presentedBy_relay, hhello, init, relayLog, List.nil_append]

/-- The relay registers the slave's key as a master, and its holder has
never signed as one. -/
theorem relay_registers_slave :
    ∃ w cr, Machine.run (step demoDeployment) init relayActions = some w ∧
      Machine.Meets (step demoDeployment) (Admissible demoDeployment) init relayActions ∧
      w.orch.conns.owner (keyID Crypto.transparent demoKey) = some 0 ∧
      w.orch.session 0 = some cr ∧ (demoDeployment.holder cr.pubKey).isSome ∧
      ∀ m sig, .signed .master cr.pubKey m sig ∉ w.log := by
  obtain ⟨w, hw, howner, hcr, hlog⟩ := run_relayActions
  refine ⟨w, _, hw, relay_admissible, howner, hcr, by simp [demoDeployment], fun m sig => ?_⟩
  rw [hlog]
  simp [relayLog]

/-- What soundness says of the relayed connection. -/
theorem relay_authenticated :
    ∃ w cr, Machine.run (step demoDeployment) init relayActions = some w ∧
      Authenticated demoDeployment w.log .orchestrator 0 (keyID Crypto.transparent demoKey) cr := by
  obtain ⟨w, hw, howner, -, -⟩ := run_relayActions
  obtain ⟨-, cr, -, -, hauth, -⟩ :=
    (authentication_sound demoDeployment demoDeployment_ideal relayActions w relay_admissible
      hw).2.1 _ _ howner
  exact ⟨w, cr, hw, hauth⟩

/-- What is left of the role: the holder has signed the relayed challenge. -/
theorem relay_signed :
    ∃ w cr, Machine.run (step demoDeployment) init relayActions = some w ∧
      w.orch.session 0 = some cr ∧
      ∃ role sig, .signed role cr.pubKey cr.challenge sig ∈ w.log := by
  obtain ⟨w, hw, howner, hcr, -⟩ := run_relayActions
  obtain ⟨-, hsigned, -⟩ := (registered_signed_in_a_role demoDeployment relayActions w
    relay_admissible hw).1 _ _ _ howner hcr (by simp [demoDeployment])
  exact ⟨w, _, hw, hcr, hsigned⟩

end Centralisd.Auth
