import Mathlib.Logic.Function.Basic
import Mathlib.Data.List.Basic
import Mathlib.Data.Set.Card
import Centralisd.Lib.Machine

/-!
# Requests that wait for a reply

Any number of connections, each with one reader and a table `pend` of the
requests that still wait on it. A request is a call: it makes a channel of
capacity one, inserts it under its key, writes its packet, and then waits
for the channel or for a timer. The reader takes packets as they come; one
that answers a key is looked up, the entry is deleted, and only then, with
the table free again, is the packet sent to the channel found.

Calls are numbered, and a call's number also names its channel. Every packet
read carries a tag (the connection and its place in what was read there),
so that equal packets stay apart.

* `Inv` — what holds in every state of a run whose calls have distinct keys:
  an entry of `pend` is a promise that nothing was delivered to its channel,
  and `delivered` is set once, by the lookup that deletes the entry;
* `Inv.reply_read`, `Inv.reply_unique`, `Inv.send_enabled` — the
  consequences for calls that return, for packets, and for the reader;
* `Owned` — every entry belongs to a call in flight; `owned_step_iff` says
  which steps keep it.
-/

namespace PendingTable

variable {ν κ π : Type}

-- ---------------------------------------------------------------------------
-- States
-- ---------------------------------------------------------------------------

/-- A packet with the connection it was read on and its place there. -/
structure Tagged (ν π : Type) where
  conn : ν
  seq : Nat
  packet : π

/-- How a call ends. -/
inductive Outcome (ν π : Type) where
  | reply (t : Tagged ν π)
  | writeError
  | timeout

/-- Where a call is. -/
inductive Pc (ν π : Type) where
  /-- the entry is inserted, at the write -/
  | writing
  /-- at the `select` -/
  | waiting
  /-- the write failed, at the removal of the entry -/
  | failed
  /-- the timer fired, at the removal of the entry -/
  | expiring
  | returned (out : Outcome ν π)

structure Call (ν κ π : Type) where
  conn : ν
  key : κ
  pc : Pc ν π

/-- Where the reader of a connection is. -/
inductive Reader (ν π : Type) where
  /-- at the read -/
  | idle
  /-- at the lookup -/
  | got (t : Tagged ν π)
  /-- the entry is deleted, at the send to the channel of a call -/
  | sending (k : Nat) (t : Tagged ν π)

structure State (ν κ π : Type) where
  calls : Nat → Option (Call ν κ π)
  pend : ν → κ → Option Nat
  chan : Nat → List (Tagged ν π)
  reader : ν → Reader ν π
  /-- the packets read on each connection -/
  read : ν → List π
  /-- the packet looked up for each call -/
  delivered : Nat → Option (Tagged ν π)
  /-- how many sends each channel has seen -/
  sends : Nat → Nat

def init : State ν κ π where
  calls := fun _ => none
  pend := fun _ _ => none
  chan := fun _ => []
  reader := fun _ => .idle
  read := fun _ => []
  delivered := fun _ => none
  sends := fun _ => 0

inductive Action (ν κ π : Type) where
  /-- a new call inserts its channel -/
  | start (k : Nat) (c : ν) (key : κ)
  | write (k : Nat) (ok : Bool)
  | cleanup (k : Nat)
  | timeout (k : Nat)
  | expire (k : Nat)
  /-- the `select` takes the reply from the channel -/
  | receive (k : Nat)
  | read (c : ν) (p : π)
  | lookup (c : ν)
  | send (c : ν)

-- ---------------------------------------------------------------------------
-- What holds in every state of a run with distinct keys
-- ---------------------------------------------------------------------------

structure Inv (replyKey : π → Option κ) (s : State ν κ π) : Prop where
  /-- calls have distinct keys -/
  keys : ∀ k k' call call', s.calls k = some call → s.calls k' = some call' →
    call.key = call'.key → k = k'
  /-- an entry of `pend` belongs to a call nothing was delivered to -/
  pend : ∀ c key k, s.pend c key = some k → s.delivered k = none ∧
    ∃ call, s.calls k = some call ∧ call.conn = c ∧ call.key = key
  /-- what was delivered to a call was read on its connection and answers it -/
  delivered : ∀ k t, s.delivered k = some t → (s.read t.conn)[t.seq]? = some t.packet ∧
    ∃ call, s.calls k = some call ∧ call.conn = t.conn ∧ replyKey t.packet = some call.key
  /-- a packet read is delivered to one call at most -/
  once : ∀ k k' t t', s.delivered k = some t → s.delivered k' = some t' →
    t.conn = t'.conn → t.seq = t'.seq → k = k'
  undelivered : ∀ k, s.delivered k = none → s.sends k = 0 ∧ s.chan k = []
  /-- the packet at the lookup is the last one read, and not yet delivered -/
  got : ∀ c t, s.reader c = .got t → t.conn = c ∧ (s.read c)[t.seq]? = some t.packet ∧
    ∀ k t', s.delivered k = some t' → t'.conn = c → t'.seq < t.seq
  /-- the channel at the send is empty and has never been sent to -/
  sending : ∀ c k t, s.reader c = .sending k t →
    t.conn = c ∧ s.delivered k = some t ∧ s.chan k = [] ∧ s.sends k = 0
  chan : ∀ k t, t ∈ s.chan k → s.delivered k = some t
  sends : ∀ k, s.sends k ≤ 1
  returned : ∀ k call t, s.calls k = some call → call.pc = .returned (.reply t) →
    s.delivered k = some t

variable {replyKey : π → Option κ}

theorem inv_init : Inv replyKey (init : State ν κ π) where
  keys := fun _ _ _ _ h => absurd h (by simp [init])
  pend := fun _ _ _ h => absurd h (by simp [init])
  delivered := fun _ _ h => absurd h (by simp [init])
  once := fun _ _ _ _ h => absurd h (by simp [init])
  undelivered := fun _ _ => ⟨rfl, rfl⟩
  got := fun _ _ h => absurd h (by simp [init])
  sending := fun _ _ _ h => absurd h (by simp [init])
  chan := fun _ _ h => absurd h (by simp [init])
  sends := fun _ => Nat.zero_le 1
  returned := fun _ _ _ h => absurd h (by simp [init])

/-- A step that only moves calls along: deliveries and readers stay, no
channel gains anything, and no call changes its connection or key. -/
theorem Inv.of_calls {s t : State ν κ π} (hs : Inv replyKey s) (hread : t.read = s.read)
    (hdelivered : t.delivered = s.delivered) (hreader : t.reader = s.reader)
    (hsends : t.sends = s.sends) (hchan : ∀ k, t.chan k <:+ s.chan k)
    (hcalls : ∀ k call, s.calls k = some call →
      ∃ call', t.calls k = some call' ∧ call'.conn = call.conn ∧ call'.key = call.key)
    (hkeys : ∀ k k' call call', t.calls k = some call → t.calls k' = some call' →
      call.key = call'.key → k = k')
    (hpend : ∀ c key k, t.pend c key = some k → s.delivered k = none ∧
      ∃ call, t.calls k = some call ∧ call.conn = c ∧ call.key = key)
    (hreturned : ∀ k call u, t.calls k = some call → call.pc = .returned (.reply u) →
      s.delivered k = some u) : Inv replyKey t where
  keys := hkeys
  pend := by
    rw [hdelivered]
    exact hpend
  delivered := by
    intro k u hu
    rw [hdelivered] at hu
    obtain ⟨hmem, call, hcall, hconn, hkey⟩ := hs.delivered k u hu
    obtain ⟨call', hcall', hconn', hkey'⟩ := hcalls k call hcall
    rw [hread]
    exact ⟨hmem, call', hcall', hconn'.trans hconn, by rw [hkey', hkey]⟩
  once := by
    rw [hdelivered]
    exact hs.once
  undelivered := by
    intro k hk
    rw [hdelivered] at hk
    obtain ⟨hzero, hnil⟩ := hs.undelivered k hk
    have hsuffix := hchan k
    rw [hnil] at hsuffix
    exact ⟨hsends ▸ hzero, List.eq_nil_of_suffix_nil hsuffix⟩
  got := by
    rw [hread, hdelivered, hreader]
    exact hs.got
  sending := by
    intro c k u hu
    rw [hreader] at hu
    obtain ⟨hconn, hdel, hnil, hzero⟩ := hs.sending c k u hu
    have hsuffix := hchan k
    rw [hnil] at hsuffix
    exact ⟨hconn, hdelivered ▸ hdel, List.eq_nil_of_suffix_nil hsuffix, hsends ▸ hzero⟩
  chan := by
    intro k u hu
    rw [hdelivered]
    exact hs.chan k u ((hchan k).subset hu)
  sends := by
    rw [hsends]
    exact hs.sends
  returned := by
    rw [hdelivered]
    exact hreturned

section CallSteps

variable {s t : State ν κ π} {k : Nat} {call : Call ν κ π} {pc : Pc ν π}

/-- Moving a call keeps every call's connection and key. -/
theorem exists_of_calls (hcall : s.calls k = some call)
    (ht : t.calls = Function.update s.calls k (some { call with pc := pc })) {k' : Nat}
    {call' : Call ν κ π} (h : s.calls k' = some call') :
    ∃ call'', t.calls k' = some call'' ∧ call''.conn = call'.conn ∧ call''.key = call'.key := by
  by_cases hk : k' = k
  · subst hk
    obtain rfl := Option.some.inj (hcall.symm.trans h)
    refine ⟨{ call with pc := pc }, ?_, rfl, rfl⟩
    rw [ht, Function.update_self]
  · refine ⟨call', ?_, rfl, rfl⟩
    rw [ht, Function.update_of_ne hk]
    exact h

/-- Every call after the move was there before it, at the same point unless
it is the one moved. -/
theorem exists_of_calls' (hcall : s.calls k = some call)
    (ht : t.calls = Function.update s.calls k (some { call with pc := pc })) {k' : Nat}
    {call' : Call ν κ π} (h : t.calls k' = some call') :
    ∃ call'', s.calls k' = some call'' ∧ call''.conn = call'.conn ∧ call''.key = call'.key ∧
      (call''.pc = call'.pc ∨ (k' = k ∧ call'.pc = pc)) := by
  rw [ht] at h
  by_cases hk : k' = k
  · subst hk
    rw [Function.update_self, Option.some.injEq] at h
    subst h
    exact ⟨call, hcall, rfl, rfl, .inr ⟨rfl, rfl⟩⟩
  · rw [Function.update_of_ne hk] at h
    exact ⟨call', h, rfl, rfl, .inl rfl⟩

/-- A call that moves to a point other than the return of a packet not
delivered to it, possibly removing entries. -/
theorem Inv.moved (hs : Inv replyKey s) (hcall : s.calls k = some call)
    (hcalls : t.calls = Function.update s.calls k (some { call with pc := pc }))
    (hread : t.read = s.read) (hdelivered : t.delivered = s.delivered)
    (hreader : t.reader = s.reader) (hsends : t.sends = s.sends)
    (hchan : ∀ k, t.chan k <:+ s.chan k)
    (hpend : ∀ c key k', t.pend c key = some k' → s.pend c key = some k')
    (hpc : ∀ u, pc = .returned (.reply u) → s.delivered k = some u) : Inv replyKey t := by
  refine hs.of_calls hread hdelivered hreader hsends hchan
    (fun k' call' h => exists_of_calls hcall hcalls h) ?_ ?_ ?_
  · intro k₁ k₂ call₁ call₂ h₁ h₂ hkey
    obtain ⟨call₁', h₁', -, hkey₁, -⟩ := exists_of_calls' hcall hcalls h₁
    obtain ⟨call₂', h₂', -, hkey₂, -⟩ := exists_of_calls' hcall hcalls h₂
    exact hs.keys k₁ k₂ call₁' call₂' h₁' h₂' (by rw [hkey₁, hkey₂, hkey])
  · intro c key k' h
    obtain ⟨hdel, call', hcall', hconn, hkey⟩ := hs.pend c key k' (hpend c key k' h)
    obtain ⟨call'', hcall'', hconn', hkey'⟩ := exists_of_calls hcall hcalls hcall'
    exact ⟨hdel, call'', hcall'', hconn'.trans hconn, hkey'.trans hkey⟩
  · intro k' call' u h hret
    obtain ⟨call'', hcall'', -, -, hsame | ⟨rfl, hpc'⟩⟩ := exists_of_calls' hcall hcalls h
    · exact hs.returned k' call'' u hcall'' (hsame.trans hret)
    · exact hpc u (hpc'.symm.trans hret)

end CallSteps

-- ---------------------------------------------------------------------------
-- Steps
-- ---------------------------------------------------------------------------

variable [DecidableEq ν] [DecidableEq κ]

def State.setPc (s : State ν κ π) (k : Nat) (call : Call ν κ π) (pc : Pc ν π) : State ν κ π :=
  { s with calls := Function.update s.calls k (some { call with pc := pc }) }

def State.setPend (s : State ν κ π) (c : ν) (key : κ) (k : Option Nat) : State ν κ π :=
  { s with pend := Function.update s.pend c (Function.update (s.pend c) key k) }

/-- The call whose channel a packet read on `c` belongs to. -/
def State.awaited (s : State ν κ π) (replyKey : π → Option κ) (c : ν) (p : π) : Option Nat :=
  (replyKey p).bind (s.pend c)

/-- The steps of a call, by where it is. `tidy` says whether a failed write
removes the entry again. -/
def onCall (tidy : Bool) (s : State ν κ π) (k : Nat) (call : Call ν κ π) :
    Action ν κ π → Option (State ν κ π)
  | .write _ ok => match call.pc with
    | .writing =>
      if ok then some (s.setPc k call .waiting)
      else if tidy then some (s.setPc k call .failed)
      else some (s.setPc k call (.returned .writeError))
    | _ => none
  | .cleanup _ => match call.pc with
    | .failed => some ((s.setPend call.conn call.key none).setPc k call (.returned .writeError))
    | _ => none
  | .timeout _ => match call.pc with
    | .waiting => some (s.setPc k call .expiring)
    | _ => none
  | .expire _ => match call.pc with
    | .expiring => some ((s.setPend call.conn call.key none).setPc k call (.returned .timeout))
    | _ => none
  | .receive _ => match call.pc, s.chan k with
    | .waiting, t :: rest =>
      some { s.setPc k call (.returned (.reply t)) with chan := Function.update s.chan k rest }
    | _, _ => none
  | _ => none

def onLookup (replyKey : π → Option κ) (s : State ν κ π) (c : ν) : Option (State ν κ π) :=
  match s.reader c with
  | .got t => match replyKey t.packet with
    | none => some { s with reader := Function.update s.reader c .idle }
    | some key => match s.pend c key with
      | none => some { s with reader := Function.update s.reader c .idle }
      | some k => some { s.setPend c key none with
          reader := Function.update s.reader c (.sending k t)
          delivered := Function.update s.delivered k (some t) }
  | _ => none

/-- The send blocks while the channel is full. -/
def onSend (s : State ν κ π) (c : ν) : Option (State ν κ π) :=
  match s.reader c with
  | .sending k t =>
    if (s.chan k).length < 1 then
      some { s with
        chan := Function.update s.chan k (s.chan k ++ [t])
        reader := Function.update s.reader c .idle
        sends := Function.update s.sends k (s.sends k + 1) }
    else none
  | _ => none

def step (replyKey : π → Option κ) (tidy : Bool) (s : State ν κ π) :
    Action ν κ π → Option (State ν κ π)
  | .start k c key => match s.calls k with
    | none => some { s.setPend c key (some k) with
        calls := Function.update s.calls k (some ⟨c, key, .writing⟩) }
    | some _ => none
  | .write k ok => (s.calls k).bind fun call => onCall tidy s k call (.write k ok)
  | .cleanup k => (s.calls k).bind fun call => onCall tidy s k call (.cleanup k)
  | .timeout k => (s.calls k).bind fun call => onCall tidy s k call (.timeout k)
  | .expire k => (s.calls k).bind fun call => onCall tidy s k call (.expire k)
  | .receive k => (s.calls k).bind fun call => onCall tidy s k call (.receive k)
  | .read c p => match s.reader c with
    | .idle => some { s with
        reader := Function.update s.reader c (.got ⟨c, (s.read c).length, p⟩)
        read := Function.update s.read c (s.read c ++ [p]) }
    | _ => none
  | .lookup c => onLookup replyKey s c
  | .send c => onSend s c

/-- A new call's key is no earlier call's. -/
def FreshKeys (s : State ν κ π) : Action ν κ π → Prop
  | .start _ _ key => ∀ k call, s.calls k = some call → call.key ≠ key
  | _ => True

-- ---------------------------------------------------------------------------
-- What a step can do
-- ---------------------------------------------------------------------------

/-- How a call moves on its own: from which point to which, and whether it
removes its entry. -/
inductive CallMoves (tidy : Bool) (k : Nat) : Action ν κ π → Pc ν π → Pc ν π → Bool → Prop
  | written : CallMoves tidy k (.write k true) .writing .waiting false
  | writeFailed (h : tidy = true) : CallMoves tidy k (.write k false) .writing .failed false
  | leaked (h : tidy = false) :
      CallMoves tidy k (.write k false) .writing (.returned .writeError) false
  | cleaned : CallMoves tidy k (.cleanup k) .failed (.returned .writeError) true
  | timedOut : CallMoves tidy k (.timeout k) .waiting .expiring false
  | expired : CallMoves tidy k (.expire k) .expiring (.returned .timeout) true

/-- Everything a step can do. -/
inductive Step (replyKey : π → Option κ) (tidy : Bool) (s : State ν κ π) :
    Action ν κ π → State ν κ π → Prop
  | start {k c key} (h : s.calls k = none) :
      Step replyKey tidy s (.start k c key)
        { s.setPend c key (some k) with
          calls := Function.update s.calls k (some ⟨c, key, .writing⟩) }
  | move {a k call pc} (h : s.calls k = some call) (hm : CallMoves tidy k a call.pc pc false) :
      Step replyKey tidy s a (s.setPc k call pc)
  | remove {a k call pc} (h : s.calls k = some call) (hm : CallMoves tidy k a call.pc pc true) :
      Step replyKey tidy s a ((s.setPend call.conn call.key none).setPc k call pc)
  | receive {k call t rest} (h : s.calls k = some call) (hpc : call.pc = .waiting)
      (hchan : s.chan k = t :: rest) :
      Step replyKey tidy s (.receive k)
        { s.setPc k call (.returned (.reply t)) with chan := Function.update s.chan k rest }
  | read {c p} (h : s.reader c = .idle) :
      Step replyKey tidy s (.read c p) { s with
        reader := Function.update s.reader c (.got ⟨c, (s.read c).length, p⟩)
        read := Function.update s.read c (s.read c ++ [p]) }
  | unawaited {c t} (h : s.reader c = .got t) (hnone : s.awaited replyKey c t.packet = none) :
      Step replyKey tidy s (.lookup c) { s with reader := Function.update s.reader c .idle }
  | found {c t key k} (h : s.reader c = .got t) (hkey : replyKey t.packet = some key)
      (hk : s.pend c key = some k) :
      Step replyKey tidy s (.lookup c) { s.setPend c key none with
        reader := Function.update s.reader c (.sending k t)
        delivered := Function.update s.delivered k (some t) }
  | send {c k t} (h : s.reader c = .sending k t) (hchan : (s.chan k).length < 1) :
      Step replyKey tidy s (.send c) { s with
        chan := Function.update s.chan k (s.chan k ++ [t])
        reader := Function.update s.reader c .idle
        sends := Function.update s.sends k (s.sends k + 1) }

variable {tidy : Bool}

/-- The actions of one call. -/
def Action.isOf (k : Nat) : Action ν κ π → Prop
  | .write k' _ => k' = k
  | .cleanup k' => k' = k
  | .timeout k' => k' = k
  | .expire k' => k' = k
  | .receive k' => k' = k
  | _ => False

theorem onCall_step {s t : State ν κ π} {k : Nat} {call : Call ν κ π} {a : Action ν κ π}
    (hcall : s.calls k = some call) (ha : a.isOf k) (h : onCall tidy s k call a = some t) :
    Step replyKey tidy s a t := by
  cases a with
  | write k' ok =>
    obtain rfl : k' = k := ha
    simp only [onCall] at h
    split at h
    · next hw =>
      cases ok with
      | true =>
        cases h
        exact .move hcall (hw ▸ .written)
      | false =>
        cases tidy with
        | true =>
          cases h
          exact .move hcall (hw ▸ .writeFailed rfl)
        | false =>
          cases h
          exact .move hcall (hw ▸ .leaked rfl)
    · cases h
  | cleanup k' =>
    obtain rfl : k' = k := ha
    simp only [onCall] at h
    split at h
    · next hw =>
      cases h
      exact .remove hcall (hw ▸ .cleaned)
    · cases h
  | timeout k' =>
    obtain rfl : k' = k := ha
    simp only [onCall] at h
    split at h
    · next hw =>
      cases h
      exact .move hcall (hw ▸ .timedOut)
    · cases h
  | expire k' =>
    obtain rfl : k' = k := ha
    simp only [onCall] at h
    split at h
    · next hw =>
      cases h
      exact .remove hcall (hw ▸ .expired)
    · cases h
  | receive k' =>
    obtain rfl : k' = k := ha
    simp only [onCall] at h
    split at h
    · next hw hchan =>
      cases h
      exact .receive hcall hw hchan
    · cases h
  | _ => exact absurd ha id

theorem onLookup_step {s t : State ν κ π} {c : ν} (h : onLookup replyKey s c = some t) :
    Step replyKey tidy s (.lookup c) t := by
  unfold onLookup at h
  split at h
  · next tag hgot =>
    split at h
    · next hnone =>
      -- not a reply at all
      cases h
      exact .unawaited hgot (by rw [State.awaited, hnone]; rfl)
    · next key hkey =>
      split at h
      · next hpend =>
        -- a reply nobody waits for
        cases h
        exact .unawaited hgot (by rw [State.awaited, hkey]; exact hpend)
      · next k hpend =>
        cases h
        exact .found hgot hkey hpend
  · cases h

/-- Every step of the machine is one of `Step`. -/
theorem step_cases {s t : State ν κ π} {a : Action ν κ π}
    (h : step replyKey tidy s a = some t) : Step replyKey tidy s a t := by
  cases a with
  | start k c key =>
    simp only [step] at h
    split at h
    · next hnone =>
      cases h
      exact .start hnone
    · cases h
  | read c p =>
    simp only [step] at h
    split at h
    · next hidle =>
      cases h
      exact .read hidle
    · cases h
  | lookup c => exact onLookup_step h
  | send c =>
    simp only [step, onSend] at h
    split at h
    · next k tag hsending =>
      split at h
      · next hroom =>
        cases h
        exact .send hsending hroom
      · cases h
    · cases h
  | _ =>
    obtain ⟨call, hcall, h⟩ := Option.bind_eq_some_iff.mp h
    exact onCall_step hcall rfl h

-- ---------------------------------------------------------------------------
-- The steps keep the invariant
-- ---------------------------------------------------------------------------

/-! ### The steps of the calls -/

/-- An entry after `setPend` is the one set or an old one. -/
theorem pend_setPend_cases {s : State ν κ π} {c c' : ν} {key key' : κ} {v : Option Nat} {k : Nat}
    (h : (s.setPend c key v).pend c' key' = some k) :
    (c' = c ∧ key' = key ∧ v = some k) ∨ s.pend c' key' = some k := by
  simp only [State.setPend] at h
  by_cases hc : c' = c
  · subst hc
    rw [Function.update_self] at h
    by_cases hk : key' = key
    · subst hk
      rw [Function.update_self] at h
      exact .inl ⟨rfl, rfl, h⟩
    · rw [Function.update_of_ne hk] at h
      exact .inr h
  · rw [Function.update_of_ne hc] at h
    exact .inr h

theorem pend_of_setPend_none {s : State ν κ π} {c c' : ν} {key key' : κ} {k : Nat}
    (h : (s.setPend c key none).pend c' key' = some k) : s.pend c' key' = some k := by
  rcases pend_setPend_cases h with ⟨-, -, hk⟩ | hold
  · cases hk
  · exact hold

omit [DecidableEq ν] [DecidableEq κ] in
theorem CallMoves.not_reply {k : Nat} {a : Action ν κ π} {pc pc' : Pc ν π} {removes : Bool}
    (hm : CallMoves tidy k a pc pc' removes) (u : Tagged ν π) : pc' ≠ .returned (.reply u) := by
  cases hm <;> simp

theorem inv_start {s : State ν κ π} (hs : Inv replyKey s) {k : Nat} {c : ν} {key : κ}
    (hnone : s.calls k = none)
    (hfresh : ∀ k call, s.calls k = some call → call.key ≠ key) :
    Inv replyKey { s.setPend c key (some k) with
      calls := Function.update s.calls k (some ⟨c, key, .writing⟩) } := by
  -- the number has never been used, so nothing was delivered to it
  have hdel : s.delivered k = none := by
    cases hd : s.delivered k with
    | none => rfl
    | some u =>
      obtain ⟨-, call, hcall, -⟩ := hs.delivered k u hd
      exact absurd (hnone.symm.trans hcall) (by simp)
  have hold : ∀ k' call', s.calls k' = some call' → k' ≠ k := by
    rintro k' call' h rfl
    exact absurd (hnone.symm.trans h) (by simp)
  refine hs.of_calls rfl rfl rfl rfl (fun _ => List.suffix_refl _) ?_ ?_ ?_ ?_
  · -- the older calls are still there
    intro k' call' h
    exact ⟨call', by simp only [Function.update_of_ne (hold k' call' h)]; exact h, rfl, rfl⟩
  · -- distinct keys: the new one is on no older call
    intro k₁ k₂ call₁ call₂ h₁ h₂ hkey
    by_cases hk₁ : k₁ = k <;> by_cases hk₂ : k₂ = k
    · exact hk₁.trans hk₂.symm
    · simp only [hk₁, Function.update_self, Option.some.injEq] at h₁
      simp only [Function.update_of_ne hk₂] at h₂
      exact absurd (by rw [← hkey, ← h₁]) (hfresh k₂ call₂ h₂)
    · simp only [Function.update_of_ne hk₁] at h₁
      simp only [hk₂, Function.update_self, Option.some.injEq] at h₂
      exact absurd (by rw [hkey, ← h₂]) (hfresh k₁ call₁ h₁)
    · simp only [Function.update_of_ne hk₁] at h₁
      simp only [Function.update_of_ne hk₂] at h₂
      exact hs.keys k₁ k₂ call₁ call₂ h₁ h₂ hkey
  · -- an entry is the new one, or belongs to an older call
    intro c' key' k' h
    rcases pend_setPend_cases h with ⟨rfl, rfl, hk⟩ | hentry
    · obtain rfl := Option.some.inj hk
      exact ⟨hdel, ⟨c', key', .writing⟩, Function.update_self .., rfl, rfl⟩
    · obtain ⟨hdel', call', hcall', hconn, hkey⟩ := hs.pend c' key' k' hentry
      refine ⟨hdel', call', ?_, hconn, hkey⟩
      simp only [Function.update_of_ne (hold k' call' hcall')]
      exact hcall'
  · intro k' call' u h hret
    by_cases hk : k' = k
    · simp only [hk, Function.update_self, Option.some.injEq] at h
      rw [← h] at hret
      cases hret
    · simp only [Function.update_of_ne hk] at h
      exact hs.returned k' call' u h hret

/-! ### The steps of the readers -/

omit [DecidableEq κ] in
theorem inv_read {s : State ν κ π} (hs : Inv replyKey s) {c : ν} {p : π}
    (hidle : s.reader c = .idle) :
    Inv replyKey { s with
      reader := Function.update s.reader c (.got ⟨c, (s.read c).length, p⟩)
      read := Function.update s.read c (s.read c ++ [p]) } := by
  -- what was read before keeps its place
  have hgrow : ∀ (c' : ν) (i : Nat) (q : π), (s.read c')[i]? = some q →
      (Function.update s.read c (s.read c ++ [p]) c')[i]? = some q := by
    intro c' i q h
    by_cases hc : c' = c
    · subst hc
      rw [Function.update_self, List.getElem?_append_left (List.getElem?_eq_some_iff.mp h).1]
      exact h
    · rwa [Function.update_of_ne hc]
  refine ⟨hs.keys, hs.pend, ?_, hs.once, hs.undelivered, ?_, ?_, hs.chan, hs.sends, hs.returned⟩
  · intro k t ht
    obtain ⟨hmem, hrest⟩ := hs.delivered k t ht
    exact ⟨hgrow _ _ _ hmem, hrest⟩
  · intro c' t ht
    by_cases hc : c' = c
    · subst hc
      simp only [Function.update_self, Reader.got.injEq] at ht
      subst ht
      refine ⟨rfl, ?_, ?_⟩
      · simp
      · -- deliveries so far are of packets read before this one
        intro k t' ht' hconn
        obtain ⟨hmem, -⟩ := hs.delivered k t' ht'
        rw [hconn] at hmem
        exact (List.getElem?_eq_some_iff.mp hmem).1
    · simp only [Function.update_of_ne hc] at ht
      obtain ⟨hconn, hmem, hbefore⟩ := hs.got c' t ht
      exact ⟨hconn, hgrow _ _ _ hmem, hbefore⟩
  · intro c' k t ht
    by_cases hc : c' = c
    · subst hc
      simp only [Function.update_self, reduceCtorEq] at ht
    · simp only [Function.update_of_ne hc] at ht
      exact hs.sending c' k t ht

omit [DecidableEq κ] in
/-- A reader that goes back to its read leaves everything as it is. -/
theorem inv_unawaited {s : State ν κ π} (hs : Inv replyKey s) (c : ν) :
    Inv replyKey { s with reader := Function.update s.reader c .idle } := by
  have hother : ∀ c' r, Function.update s.reader c .idle c' = r → r ≠ .idle → s.reader c' = r := by
    intro c' r h hr
    by_cases hc : c' = c
    · subst hc
      rw [Function.update_self] at h
      exact absurd h.symm hr
    · rwa [Function.update_of_ne hc] at h
  exact ⟨hs.keys, hs.pend, hs.delivered, hs.once, hs.undelivered,
    fun c' t h => hs.got c' t (hother c' _ h (by simp)),
    fun c' k t h => hs.sending c' k t (hother c' _ h (by simp)), hs.chan, hs.sends, hs.returned⟩

/-- The lookup that finds a call: its entry goes, and the packet becomes what
was delivered to it. -/
theorem inv_found {s : State ν κ π} (hs : Inv replyKey s) {c : ν} {t : Tagged ν π} {key : κ}
    {k : Nat} (hgot : s.reader c = .got t) (hkey : replyKey t.packet = some key)
    (hk : s.pend c key = some k) :
    Inv replyKey { s.setPend c key none with
      reader := Function.update s.reader c (.sending k t)
      delivered := Function.update s.delivered k (some t) } := by
  obtain ⟨hundelivered, call, hcall, hconn, hkey'⟩ := hs.pend c key k hk
  obtain ⟨hzero, hnil⟩ := hs.undelivered k hundelivered
  obtain ⟨hc, hmem, hbefore⟩ := hs.got c t hgot
  -- the other calls keep what was delivered to them
  have hother : ∀ k' u, Function.update s.delivered k (some t) k' = some u →
      (k' = k ∧ u = t) ∨ s.delivered k' = some u := by
    intro k' u h
    by_cases hk' : k' = k
    · subst hk'
      rw [Function.update_self, Option.some.injEq] at h
      exact .inl ⟨rfl, h.symm⟩
    · rw [Function.update_of_ne hk'] at h
      exact .inr h
  have hkeep : ∀ k' u, s.delivered k' = some u →
      Function.update s.delivered k (some t) k' = some u := by
    intro k' u h
    have hk' : k' ≠ k := by
      rintro rfl
      exact absurd (hundelivered.symm.trans h) (by simp)
    rwa [Function.update_of_ne hk']
  refine ⟨hs.keys, ?_, ?_, ?_, ?_, ?_, ?_, ?_, hs.sends, ?_⟩
  · -- pend
    intro c' key' k' h
    have hentry := pend_of_setPend_none h
    obtain ⟨hdel, call', hcall', hconn', hkey''⟩ := hs.pend c' key' k' hentry
    refine ⟨?_, call', hcall', hconn', hkey''⟩
    -- the deleted entry was the only one that named `k`
    have hk' : k' ≠ k := by
      rintro rfl
      obtain rfl := Option.some.inj (hcall.symm.trans hcall')
      obtain rfl : c' = c := hconn'.symm.trans hconn
      obtain rfl : key' = key := hkey''.symm.trans hkey'
      simp [State.setPend] at h
    show Function.update s.delivered k (some t) k' = none
    rwa [Function.update_of_ne hk']
  · -- delivered
    intro k' u hu
    rcases hother k' u hu with ⟨rfl, rfl⟩ | hold
    · refine ⟨by rw [hc]; exact hmem, call, hcall, hconn.trans hc.symm, ?_⟩
      rw [hkey, hkey']
    · exact hs.delivered k' u hold
  · -- once: every earlier delivery was read earlier
    intro k₁ k₂ t₁ t₂ h₁ h₂ hsame hseq
    rcases hother k₁ t₁ h₁ with ⟨rfl, rfl⟩ | hold₁ <;> rcases hother k₂ t₂ h₂ with ⟨rfl, rfl⟩ | hold₂
    · rfl
    · have := hbefore k₂ t₂ hold₂ (hsame.symm.trans hc)
      omega
    · have := hbefore k₁ t₁ hold₁ (hsame.trans hc)
      omega
    · exact hs.once k₁ k₂ t₁ t₂ hold₁ hold₂ hsame hseq
  · -- undelivered
    intro k' hk'
    refine hs.undelivered k' ?_
    cases hd : s.delivered k' with
    | none => rfl
    | some u => exact absurd ((hkeep k' u hd).symm.trans hk') (by simp)
  · -- got: this reader has moved on, the others are where they were
    intro c' u hu
    have hc' : c' ≠ c := by
      rintro rfl
      simp [Function.update_self] at hu
    simp only [Function.update_of_ne hc'] at hu
    obtain ⟨huc, hmem', hbefore'⟩ := hs.got c' u hu
    refine ⟨huc, hmem', fun k' t' ht' htc => ?_⟩
    rcases hother k' t' ht' with ⟨-, rfl⟩ | hold
    · exact absurd (htc.symm.trans hc) hc'
    · exact hbefore' k' t' hold htc
  · -- sending
    intro c' k' u hu
    by_cases hc' : c' = c
    · subst hc'
      simp only [Function.update_self, Reader.sending.injEq] at hu
      obtain ⟨rfl, rfl⟩ := hu
      exact ⟨hc, Function.update_self .., hnil, hzero⟩
    · simp only [Function.update_of_ne hc'] at hu
      obtain ⟨huc, hdel, hrest⟩ := hs.sending c' k' u hu
      exact ⟨huc, hkeep k' u hdel, hrest⟩
  · exact fun k' u hu => hkeep k' u (hs.chan k' u hu)
  · exact fun k' call' u h hret => hkeep k' u (hs.returned k' call' u h hret)

omit [DecidableEq κ] in
theorem inv_send {s : State ν κ π} (hs : Inv replyKey s) {c : ν} {k : Nat} {t : Tagged ν π}
    (hsending : s.reader c = .sending k t) :
    Inv replyKey { s with
      chan := Function.update s.chan k (s.chan k ++ [t])
      reader := Function.update s.reader c .idle
      sends := Function.update s.sends k (s.sends k + 1) } := by
  obtain ⟨hc, hdel, hnil, hzero⟩ := hs.sending c k t hsending
  -- no other reader sends to this channel: the tag names the connection
  have hreader : ∀ c' r, Function.update s.reader c .idle c' = r → r ≠ .idle →
      c' ≠ c ∧ s.reader c' = r := by
    intro c' r h hr
    by_cases hc' : c' = c
    · subst hc'
      rw [Function.update_self] at h
      exact absurd h.symm hr
    · rw [Function.update_of_ne hc'] at h
      exact ⟨hc', h⟩
  refine ⟨hs.keys, hs.pend, hs.delivered, hs.once, ?_, ?_, ?_, ?_, ?_, hs.returned⟩
  · -- undelivered: the channel sent to is one with a delivery
    intro k' hk'
    have hne : k' ≠ k := by
      rintro rfl
      exact absurd (hdel.symm.trans hk') (by simp)
    simp only [Function.update_of_ne hne]
    exact hs.undelivered k' hk'
  · exact fun c' u hu => hs.got c' u (hreader c' _ hu (by simp)).2
  · intro c' k' u hu
    obtain ⟨hc', hu⟩ := hreader c' _ hu (by simp)
    obtain ⟨huc, hdel', hrest⟩ := hs.sending c' k' u hu
    have hne : k' ≠ k := by
      rintro rfl
      obtain rfl := Option.some.inj (hdel.symm.trans hdel')
      exact hc' (huc.symm.trans hc)
    simp only [Function.update_of_ne hne]
    exact ⟨huc, hdel', hrest⟩
  · intro k' u hu
    by_cases hk' : k' = k
    · subst hk'
      simp only [Function.update_self, hnil, List.nil_append, List.mem_singleton] at hu
      subst hu
      exact hdel
    · simp only [Function.update_of_ne hk'] at hu
      exact hs.chan k' u hu
  · -- the first send to this channel
    intro k'
    by_cases hk' : k' = k
    · subst hk'
      simp only [Function.update_self, hzero]
      exact Nat.le_refl 1
    · simp only [Function.update_of_ne hk']
      exact hs.sends k'

/-- **The invariant is kept** by every step that starts no call under a used
key. -/
theorem inv_step {s t : State ν κ π} {a : Action ν κ π} (hs : Inv replyKey s)
    (hfresh : FreshKeys s a) (h : step replyKey tidy s a = some t) : Inv replyKey t := by
  cases step_cases h with
  | start hnone => exact inv_start hs hnone hfresh
  | move hcall hm =>
    exact hs.moved hcall rfl rfl rfl rfl rfl (fun _ => List.suffix_refl _) (fun _ _ _ h => h)
      fun u hu => absurd hu (hm.not_reply u)
  | remove hcall hm =>
    exact hs.moved hcall rfl rfl rfl rfl rfl (fun _ => List.suffix_refl _)
      (fun _ _ _ h => pend_of_setPend_none h) fun u hu => absurd hu (hm.not_reply u)
  | receive hcall hpc hchan =>
    rename_i k call u rest
    -- what the call takes from its channel was delivered to it
    have hmem : u ∈ s.chan k := hchan ▸ List.mem_cons_self
    refine hs.moved hcall rfl rfl rfl rfl rfl (fun k' => ?_) (fun _ _ _ h => h) ?_
    · by_cases hk : k' = k
      · subst hk
        simp only [Function.update_self, hchan]
        exact List.suffix_cons u rest
      · simp only [Function.update_of_ne hk]
        exact List.suffix_refl _
    · intro u' hu'
      obtain rfl : u = u' := by simpa using hu'
      exact hs.chan k u hmem
  | read hidle => exact inv_read hs hidle
  | unawaited hgot hnone => exact inv_unawaited hs _
  | found hgot hkey hk => exact inv_found hs hgot hkey hk
  | send hsending hroom => exact inv_send hs hsending

theorem inv_run {s : State ν κ π} {as : List (Action ν κ π)}
    (hfresh : Machine.Meets (step replyKey tidy) FreshKeys init as)
    (h : Machine.run (step replyKey tidy) init as = some s) : Inv replyKey s :=
  Machine.run_invariant_of_meets (fun _ _ _ hs hok hst => inv_step hs hok hst) inv_init hfresh h

-- ---------------------------------------------------------------------------
-- What calls and readers can rely on
-- ---------------------------------------------------------------------------

section Consequences

variable {s : State ν κ π}

omit [DecidableEq ν] [DecidableEq κ] in
/-- A call that returns a packet returns one that was read on its own
connection and answers its own key. -/
theorem Inv.reply_read (hs : Inv replyKey s) {k : Nat} {call : Call ν κ π} {t : Tagged ν π}
    (hcall : s.calls k = some call) (hret : call.pc = .returned (.reply t)) :
    t.conn = call.conn ∧ (s.read call.conn)[t.seq]? = some t.packet ∧
      replyKey t.packet = some call.key := by
  obtain ⟨hmem, call', hcall', hconn, hkey⟩ := hs.delivered k t (hs.returned k call t hcall hret)
  obtain rfl := Option.some.inj (hcall.symm.trans hcall')
  exact ⟨hconn.symm, hconn ▸ hmem, hkey⟩

omit [DecidableEq ν] [DecidableEq κ] in
/-- One packet read completes one call at most. -/
theorem Inv.reply_unique (hs : Inv replyKey s) {k k' : Nat} {call call' : Call ν κ π}
    {t t' : Tagged ν π} (hcall : s.calls k = some call) (hcall' : s.calls k' = some call')
    (hret : call.pc = .returned (.reply t)) (hret' : call'.pc = .returned (.reply t'))
    (hconn : t.conn = t'.conn) (hseq : t.seq = t'.seq) : k = k' :=
  hs.once k k' t t' (hs.returned k call t hcall hret) (hs.returned k' call' t' hcall' hret')
    hconn hseq

/-- A reader at its send is never blocked. -/
theorem Inv.send_enabled (hs : Inv replyKey s) {c : ν} {k : Nat} {t : Tagged ν π}
    (h : s.reader c = .sending k t) : (step replyKey tidy s (.send c)).isSome := by
  obtain ⟨-, -, hnil, -⟩ := hs.sending c k t h
  simp [step, onSend, h, hnil]

end Consequences

-- ---------------------------------------------------------------------------
-- What a step does to the calls
-- ---------------------------------------------------------------------------

/-- The call is past its write. -/
def Pc.written : Pc ν π → Bool
  | .writing => false
  | _ => true

/-- The connection a call has written to. -/
def State.route (s : State ν κ π) (k : Nat) : Option ν :=
  (s.calls k).bind fun call => if call.pc.written then some call.conn else none

/-- Calls stay: where they were made, under their key, written once written
and returned once returned. -/
def Keeps (s t : State ν κ π) : Prop :=
  ∀ k call, s.calls k = some call → ∃ call', t.calls k = some call' ∧
    call'.conn = call.conn ∧ call'.key = call.key ∧
    ∀ out, call.pc = .returned out → call'.pc = .returned out

omit [DecidableEq ν] [DecidableEq κ] in
theorem Keeps.refl (s : State ν κ π) : Keeps s s :=
  fun _ call h => ⟨call, h, rfl, rfl, fun _ h => h⟩

/-- What a step does to the calls: one is made, one writes, one that has
written and not returned moves on, or nothing. -/
inductive CallsStep (s t : State ν κ π) : Action ν κ π → Prop
  | start {k c key} (h : s.calls k = none)
      (ht : t.calls = Function.update s.calls k (some ⟨c, key, .writing⟩)) :
      CallsStep s t (.start k c key)
  | write {k ok call pc} (h : s.calls k = some call) (hpc : call.pc = .writing)
      (hpc' : pc.written = true)
      (ht : t.calls = Function.update s.calls k (some { call with pc := pc })) :
      CallsStep s t (.write k ok)
  | move {a k call pc} (ha : ∀ k ok, a ≠ .write k ok) (h : s.calls k = some call)
      (hpc : call.pc.written = true) (hout : ∀ out, call.pc ≠ .returned out)
      (hpc' : pc.written = true)
      (ht : t.calls = Function.update s.calls k (some { call with pc := pc })) : CallsStep s t a
  | keep {a} (ha : ∀ k ok, a ≠ .write k ok) (ht : t.calls = s.calls) : CallsStep s t a

theorem step_calls {s t : State ν κ π} {a : Action ν κ π}
    (h : step replyKey tidy s a = some t) : CallsStep s t a := by
  cases step_cases h with
  | start hnone => exact .start hnone rfl
  | @move _ k call pc hcall hm =>
    cases hpc : call.pc <;> rw [hpc] at hm <;> cases hm
    · exact .write hcall hpc rfl rfl
    · exact .write hcall hpc rfl rfl
    · exact .write hcall hpc rfl rfl
    · exact .move (by simp) hcall (by rw [hpc]; rfl) (by simp [hpc]) rfl rfl
  | @remove _ k call pc hcall hm =>
    cases hpc : call.pc <;> rw [hpc] at hm <;> cases hm
    · exact .move (by simp) hcall (by rw [hpc]; rfl) (by simp [hpc]) rfl rfl
    · exact .move (by simp) hcall (by rw [hpc]; rfl) (by simp [hpc]) rfl rfl
  | receive hcall hpc _ =>
    exact .move (by simp) hcall (by rw [hpc]; rfl) (by simp [hpc]) rfl rfl
  | read _ => exact .keep (by simp) rfl
  | unawaited _ _ => exact .keep (by simp) rfl
  | found _ _ _ => exact .keep (by simp) rfl
  | send _ _ => exact .keep (by simp) rfl

omit [DecidableEq ν] [DecidableEq κ] in
theorem keeps_of_update {s t : State ν κ π} {k : Nat} {call : Call ν κ π} {pc : Pc ν π}
    (hcall : s.calls k = some call) (hout : ∀ out, call.pc ≠ .returned out)
    (ht : t.calls = Function.update s.calls k (some { call with pc := pc })) : Keeps s t := by
  intro k' call' h
  by_cases hk : k' = k
  · subst hk
    obtain rfl := Option.some.inj (hcall.symm.trans h)
    refine ⟨{ call with pc := pc }, ?_, rfl, rfl, fun out ho => absurd ho (hout out)⟩
    rw [ht, Function.update_self]
  · refine ⟨call', ?_, rfl, rfl, fun _ h => h⟩
    rw [ht, Function.update_of_ne hk]
    exact h

theorem step_keeps {s t : State ν κ π} {a : Action ν κ π}
    (h : step replyKey tidy s a = some t) : Keeps s t := by
  cases step_calls h with
  | start hnone ht =>
    rename_i k c key
    intro k' call' h'
    have hk : k' ≠ k := by
      rintro rfl
      exact absurd (hnone.symm.trans h') (by simp)
    refine ⟨call', ?_, rfl, rfl, fun _ h => h⟩
    rw [ht, Function.update_of_ne hk]
    exact h'
  | write hcall hpc _ ht => exact keeps_of_update hcall (by simp [hpc]) ht
  | move _ hcall _ hout _ ht => exact keeps_of_update hcall hout ht
  | keep _ ht => exact fun _ call hcall => ⟨call, ht ▸ hcall, rfl, rfl, fun _ h => h⟩

/-- Every call was there before, or is the one made. -/
theorem step_calls_old {s t : State ν κ π} {a : Action ν κ π}
    (h : step replyKey tidy s a = some t) {k : Nat} {call' : Call ν κ π}
    (hcall' : t.calls k = some call') :
    (∃ call, s.calls k = some call ∧ call.conn = call'.conn ∧ call.key = call'.key) ∨
      a = .start k call'.conn call'.key := by
  cases step_calls h with
  | @start k₀ c key hnone ht =>
    rw [ht] at hcall'
    by_cases hk : k = k₀
    · subst hk
      rw [Function.update_self, Option.some.injEq] at hcall'
      subst hcall'
      exact .inr rfl
    · rw [Function.update_of_ne hk] at hcall'
      exact .inl ⟨call', hcall', rfl, rfl⟩
  | write hcall _ _ ht =>
    obtain ⟨call, hold, hconn, hkey, -⟩ := exists_of_calls' hcall ht hcall'
    exact .inl ⟨call, hold, hconn, hkey⟩
  | move _ hcall _ _ _ ht =>
    obtain ⟨call, hold, hconn, hkey, -⟩ := exists_of_calls' hcall ht hcall'
    exact .inl ⟨call, hold, hconn, hkey⟩
  | keep _ ht => exact .inl ⟨call', ht ▸ hcall', rfl, rfl⟩

omit [DecidableEq ν] [DecidableEq κ] in
theorem route_of_update {s t : State ν κ π} {k : Nat} {call : Call ν κ π} {pc : Pc ν π}
    (hpc : pc.written = true)
    (ht : t.calls = Function.update s.calls k (some { call with pc := pc })) :
    t.route = Function.update s.route k (some call.conn) := by
  funext k'
  by_cases hk : k' = k
  · subst hk
    rw [State.route, ht, Function.update_self, Function.update_self, Option.bind_some, if_pos hpc]
  · rw [State.route, ht, Function.update_of_ne hk, Function.update_of_ne hk, State.route]

/-- Only a write gives a call its route. -/
theorem step_route {s t : State ν κ π} {a : Action ν κ π}
    (h : step replyKey tidy s a = some t) (ha : ∀ k ok, a ≠ .write k ok) : t.route = s.route := by
  cases step_calls h with
  | @start k c key hnone ht =>
    funext k'
    by_cases hk : k' = k
    · subst hk
      rw [State.route, ht, Function.update_self, State.route, hnone]
      rfl
    · rw [State.route, ht, Function.update_of_ne hk, State.route]
  | @write k ok _ _ _ _ _ _ => exact absurd rfl (ha k ok)
  | @move _ k call pc _ hcall hpc _ hpc' ht =>
    rw [route_of_update hpc' ht]
    refine Function.update_eq_self_iff.mpr ?_
    rw [State.route, hcall, Option.bind_some, if_pos hpc]
  | keep _ ht =>
    funext k
    rw [State.route, ht, State.route]

/-- A write takes the call's number to its connection. -/
theorem step_write {s t : State ν κ π} {k : Nat} {ok : Bool} {call : Call ν κ π}
    (h : step replyKey tidy s (.write k ok) = some t) (hcall : s.calls k = some call) :
    s.route k = none ∧ t.route = Function.update s.route k (some call.conn) := by
  cases step_calls h with
  | write hcall' hpc hpc' ht =>
    obtain rfl := Option.some.inj (hcall.symm.trans hcall')
    refine ⟨?_, route_of_update hpc' ht⟩
    rw [State.route, hcall, Option.bind_some, hpc]
    rfl
  | move ha => exact absurd rfl (ha k ok)
  | keep ha => exact absurd rfl (ha k ok)

/-- Only a read adds to what was read. -/
theorem step_read_old {s t : State ν κ π} {a : Action ν κ π}
    (h : step replyKey tidy s a = some t) {c : ν} {p : π} (hp : p ∈ t.read c) :
    p ∈ s.read c ∨ a = .read c p := by
  cases step_cases h with
  | @read c' q _ =>
    by_cases hc : c = c'
    · subst hc
      simp only [Function.update_self, List.mem_append, List.mem_singleton] at hp
      rcases hp with hp | rfl
      · exact .inl hp
      · exact .inr rfl
    · simp only [Function.update_of_ne hc] at hp
      exact .inl hp
  | _ => exact .inl hp

-- ---------------------------------------------------------------------------
-- Entries that outlive their call
-- ---------------------------------------------------------------------------

/-- The call has been made on the connection and has not returned. -/
def State.InFlight (s : State ν κ π) (c : ν) (k : Nat) : Prop :=
  ∃ call, s.calls k = some call ∧ call.conn = c ∧ ∀ out, call.pc ≠ .returned out

/-- Every entry belongs to a call in flight. -/
def Owned (s : State ν κ π) : Prop := ∀ c key k, s.pend c key = some k → s.InFlight c k

/-- A write that fails leaves no entry behind: the call removes it, or a reply
has done so already. -/
def LeavesNothing (tidy : Bool) (s : State ν κ π) : Action ν κ π → Prop
  | .write k false => tidy = false → ∀ call, s.calls k = some call →
      s.pend call.conn call.key = none
  | _ => True

omit [DecidableEq ν] [DecidableEq κ] in
theorem owned_init : Owned (init : State ν κ π) := fun _ _ _ h => absurd h (by simp [init])

omit [DecidableEq ν] [DecidableEq κ] in
/-- The entry under a call's own connection and key is the call's. -/
theorem Inv.pend_self {s : State ν κ π} (hs : Inv replyKey s) {k k' : Nat} {call : Call ν κ π}
    (hcall : s.calls k = some call) (h : s.pend call.conn call.key = some k') : k' = k := by
  obtain ⟨-, call', hcall', -, hkey⟩ := hs.pend _ _ _ h
  exact hs.keys k' k call' call hcall' hcall hkey

omit [DecidableEq ν] [DecidableEq κ] in
/-- A call moves and no entry is added: the entries are still owned if the
call has not returned or no entry is left to it. -/
theorem Owned.moved {s t : State ν κ π} (ho : Owned s) {k : Nat} {call : Call ν κ π} {pc : Pc ν π}
    (hcall : s.calls k = some call)
    (hcalls : t.calls = Function.update s.calls k (some { call with pc := pc }))
    (hpend : ∀ c key k', t.pend c key = some k' → s.pend c key = some k')
    (hpc : (∀ out, pc ≠ .returned out) ∨ ∀ c key, t.pend c key ≠ some k) : Owned t := by
  intro c key k' h
  obtain ⟨call', hcall', hconn, hout⟩ := ho c key k' (hpend c key k' h)
  by_cases hk : k' = k
  · subst hk
    rcases hpc with hpc | hnone
    · obtain rfl := Option.some.inj (hcall.symm.trans hcall')
      exact ⟨{ call with pc := pc }, by rw [hcalls, Function.update_self], hconn, hpc⟩
    · exact absurd h (hnone c key)
  · exact ⟨call', by rw [hcalls, Function.update_of_ne hk, hcall'], hconn, hout⟩

omit [DecidableEq ν] [DecidableEq κ] in
/-- The readers' steps move no call and add no entry. -/
theorem Owned.of_pend {s t : State ν κ π} (ho : Owned s) (hcalls : t.calls = s.calls)
    (hpend : ∀ c key k, t.pend c key = some k → s.pend c key = some k) : Owned t := by
  intro c key k h
  obtain ⟨call, hcall, hrest⟩ := ho c key k (hpend c key k h)
  exact ⟨call, by rw [hcalls, hcall], hrest⟩

theorem owned_start {s : State ν κ π} (ho : Owned s) {k : Nat} {c : ν} {key : κ}
    (hnone : s.calls k = none) :
    Owned { s.setPend c key (some k) with
      calls := Function.update s.calls k (some ⟨c, key, .writing⟩) } := by
  intro c' key' k' h
  rcases pend_setPend_cases h with ⟨rfl, rfl, hk⟩ | hold
  · obtain rfl := Option.some.inj hk
    exact ⟨⟨c', key', .writing⟩, Function.update_self .., rfl, by simp⟩
  · obtain ⟨call, hcall, hrest⟩ := ho c' key' k' hold
    have hne : k' ≠ k := by
      rintro rfl
      exact absurd (hnone.symm.trans hcall) (by simp)
    exact ⟨call, (Function.update_of_ne hne ..).trans hcall, hrest⟩

omit [DecidableEq ν] [DecidableEq κ] in
/-- A call that fails at its write and removes nothing: the entries are owned
exactly when a reply has removed its entry. -/
theorem owned_leaked_iff {s : State ν κ π} (hs : Inv replyKey s) (ho : Owned s) {k : Nat}
    {call : Call ν κ π} (hcall : s.calls k = some call) {out : Outcome ν π} :
    Owned (s.setPc k call (.returned out)) ↔ s.pend call.conn call.key = none := by
  constructor
  · intro h
    cases hp : s.pend call.conn call.key with
    | none => rfl
    | some k' =>
      obtain rfl := hs.pend_self hcall hp
      obtain ⟨call', hcall', -, hout⟩ := h _ _ _ hp
      simp only [State.setPc, Function.update_self, Option.some.injEq] at hcall'
      exact absurd (by rw [← hcall']) (hout out)
  · intro hp
    refine ho.moved hcall rfl (fun _ _ _ h => h) (.inr fun c key h => ?_)
    obtain ⟨-, call', hcall', rfl, rfl⟩ := hs.pend c key k h
    obtain rfl := Option.some.inj (hcall.symm.trans hcall')
    exact absurd (hp.symm.trans h) (by simp)

/-- A call that returns after removing its entry. -/
theorem owned_removed {s : State ν κ π} (hs : Inv replyKey s) (ho : Owned s) {k : Nat}
    {call : Call ν κ π} (hcall : s.calls k = some call) (pc : Pc ν π) :
    Owned ((s.setPend call.conn call.key none).setPc k call pc) := by
  refine ho.moved hcall rfl (fun _ _ _ h => pend_of_setPend_none h) (.inr fun c key h => ?_)
  -- an entry left to the call would be under its own key
  obtain ⟨-, call', hcall', rfl, rfl⟩ := hs.pend c key k (pend_of_setPend_none h)
  obtain rfl := Option.some.inj (hcall.symm.trans hcall')
  simp [State.setPc, State.setPend] at h

/-- **Owned entries.** A step keeps every entry owned exactly when it is not a
failed write that leaves the entry of its call behind. -/
theorem owned_step_iff {s t : State ν κ π} {a : Action ν κ π} (hs : Inv replyKey s)
    (ho : Owned s) (h : step replyKey tidy s a = some t) :
    Owned t ↔ LeavesNothing tidy s a := by
  cases step_cases h with
  | start hnone => exact iff_of_true (owned_start ho hnone) trivial
  | @move _ k call pc hcall hm =>
    have hkeep : (∀ out, pc ≠ .returned out) → Owned (s.setPc k call pc) := fun hpc =>
      ho.moved hcall rfl (fun _ _ _ h => h) (.inl hpc)
    cases hpc : call.pc <;> rw [hpc] at hm <;> cases hm
    · exact iff_of_true (hkeep (by simp)) trivial
    · next htidy =>
      refine iff_of_true (hkeep (by simp)) fun hfalse => ?_
      rw [htidy] at hfalse
      cases hfalse
    · next htidy =>
      rw [owned_leaked_iff hs ho hcall]
      constructor
      · intro hp _ call' hcall'
        obtain rfl := Option.some.inj (hcall.symm.trans hcall')
        exact hp
      · exact fun hok => hok htidy call hcall
    · exact iff_of_true (hkeep (by simp)) trivial
  | @remove _ k call pc hcall hm =>
    refine iff_of_true (owned_removed hs ho hcall pc) ?_
    cases hpc : call.pc <;> rw [hpc] at hm <;> cases hm <;> trivial
  | @receive k call u rest hcall hpc hchan =>
    refine iff_of_true (ho.moved hcall rfl (fun _ _ _ h => h) (.inr fun c key hp => ?_)) trivial
    -- what is in the channel was delivered when the entry was removed
    have hdel := hs.chan k u (hchan ▸ List.mem_cons_self)
    exact absurd ((hs.pend c key k hp).1.symm.trans hdel) (by simp)
  | read hidle => exact iff_of_true (ho.of_pend rfl fun _ _ _ h => h) trivial
  | unawaited hgot hnone => exact iff_of_true (ho.of_pend rfl fun _ _ _ h => h) trivial
  | found hgot hkey hk =>
    exact iff_of_true (ho.of_pend rfl fun _ _ _ h => pend_of_setPend_none h) trivial
  | send hsending hroom => exact iff_of_true (ho.of_pend rfl fun _ _ _ h => h) trivial

omit [DecidableEq ν] [DecidableEq κ] in
/-- Owned entries are no more than the calls in flight. -/
theorem Owned.encard_le {s : State ν κ π} (hs : Inv replyKey s) (ho : Owned s) (c : ν) :
    {key | s.pend c key ≠ none}.encard ≤ {k | s.InFlight c k}.encard := by
  have hsome : ∀ key, s.pend c key ≠ none → s.pend c key = some ((s.pend c key).getD 0) := by
    intro key h
    obtain ⟨k, hk⟩ := Option.ne_none_iff_exists'.mp h
    rw [hk, Option.getD_some]
  refine Set.encard_le_encard_of_injOn (f := fun key => (s.pend c key).getD 0) ?_ ?_
  · intro key h
    exact ho c key _ (hsome key h)
  · -- an entry's call names its key
    intro key h key' h' heq
    obtain ⟨-, call, hcall, -, rfl⟩ := hs.pend c key _ (hsome key h)
    obtain ⟨-, call', hcall', -, rfl⟩ := hs.pend c key' _ (hsome key' h')
    have hsame : s.calls ((s.pend c call.key).getD 0) = s.calls ((s.pend c call'.key).getD 0) :=
      congrArg s.calls heq
    rw [hcall, hcall', Option.some.injEq] at hsame
    rw [hsame]

end PendingTable
