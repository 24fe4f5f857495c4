import Mathlib
import Centralisd.Lib.Machine

/-!
# Centralisd — a busy node and its heartbeat

One slave and the two places of its master that send it packets, with a
clock. `handleConnection` (`src/master/server.go`) sends a heartbeat, waits
at most 5 s for its reply and pauses for 10 s; `readOrchestratorLoop`
(`src/master/orchestrator_client.go`) forwards a command and waits at most
10 s. The slave's packet loop (`src/slave/slave.go`) handles one packet at a
time, in the order of their arrival; a heartbeat takes the 3 s of
`cpu.Percent`, a command any time up to the 10 s. The connection takes no
time.

* `busy_node_kept` — the master keeps the slave in every run in which each
  heartbeat is sent while less than 2 s of work wait at the slave, and any
  heartbeat that is sent while there is more may cost the slave its
  registration.
-/

namespace Centralisd.Busy

open Machine

/-! ## Time -/

/-- A `time.Duration`, in nanoseconds. -/
def second : Nat := 1000000000

/-- The sampling interval of `GetHardwareInfo`. -/
def samplingTime : Nat := 3 * second

def heartbeatLimit : Nat := 5 * second

def heartbeatPause : Nat := 10 * second

def commandLimit : Nat := 10 * second

/-! ## The parties -/

inductive Request where
  | heartbeat
  | command (id : Nat)
  deriving DecidableEq, Repr

/-- A packet at the slave, with the rest of the time that its handler
takes. -/
structure Job where
  request : Request
  left : Nat
  deriving DecidableEq, Repr

/-- The loop of `handleConnection`. -/
inductive HeartbeatLoop where
  | sleeping (wake : Nat)
  | waiting (deadline : Nat)
  /-- it has returned, and `unregisterNode` has run -/
  | returned
  deriving DecidableEq, Repr

structure State where
  now : Nat := 0
  /-- the slave handles the first one -/
  queue : List Job := []
  heartbeat : HeartbeatLoop := .sleeping 0
  /-- the command that `readOrchestratorLoop` waits for, and its deadline -/
  command : Option (Nat × Nat) := none
  nextID : Nat := 0
  deriving DecidableEq, Repr

inductive Action where
  /-- time passes -/
  | wait (d : Nat)
  | sendHeartbeat
  /-- a command whose handler takes this time -/
  | sendCommand (time : Nat)
  /-- the slave is done with the first packet -/
  | reply
  | heartbeatTimeout
  | commandTimeout
  deriving DecidableEq, Repr

/-- The slave works on the first packet. -/
def serve (d : Nat) : List Job → List Job
  | [] => []
  | job :: rest => { job with left := job.left - d } :: rest

/-- Nothing is due before `d` has passed: neither a reply nor a timer. -/
def State.mayWait (s : State) (d : Nat) : Bool :=
  s.queue.head?.all (fun job => d ≤ job.left) &&
    (match s.heartbeat with
      | .waiting deadline => s.now + d ≤ deadline
      | _ => true) &&
    s.command.all fun c => s.now + d ≤ c.2

/-- A reply reaches the master; one that nobody waits for is dropped. -/
def State.resolve (s : State) : Request → State
  | .heartbeat => match s.heartbeat with
    | .waiting _ => { s with heartbeat := .sleeping (s.now + heartbeatPause) }
    | _ => s
  | .command id => if s.command.map Prod.fst = some id then { s with command := none } else s

def step (s : State) : Action → Option State
  | .wait d =>
    if s.mayWait d then some { s with now := s.now + d, queue := serve d s.queue } else none
  | .sendHeartbeat => match s.heartbeat with
    | .sleeping wake =>
      if wake ≤ s.now then
        some { s with
          queue := s.queue ++ [⟨.heartbeat, samplingTime⟩]
          heartbeat := .waiting (s.now + heartbeatLimit) }
      else none
    | _ => none
  | .sendCommand time =>
    -- an unregistered node gets no commands
    if s.heartbeat ≠ .returned ∧ s.command = none ∧ time ≤ commandLimit then
      some { s with
        queue := s.queue ++ [⟨.command s.nextID, time⟩]
        command := some (s.nextID, s.now + commandLimit)
        nextID := s.nextID + 1 }
    else none
  | .reply => match s.queue with
    | [] => none
    | job :: rest =>
      if job.left = 0 then some ({ s with queue := rest }.resolve job.request) else none
  | .heartbeatTimeout => match s.heartbeat with
    | .waiting deadline => if deadline ≤ s.now then some { s with heartbeat := .returned } else none
    | _ => none
  | .commandTimeout => match s.command with
    | some (_, deadline) => if deadline ≤ s.now then some { s with command := none } else none
    | none => none

/-- What a step can do. -/
inductive Moves (s : State) : Action → State → Prop where
  | wait (d : Nat) (hwait : s.mayWait d = true) :
      Moves s (.wait d) { s with now := s.now + d, queue := serve d s.queue }
  | sendHeartbeat (wake : Nat) (hheart : s.heartbeat = .sleeping wake) (hwake : wake ≤ s.now) :
      Moves s .sendHeartbeat { s with
        queue := s.queue ++ [⟨.heartbeat, samplingTime⟩]
        heartbeat := .waiting (s.now + heartbeatLimit) }
  | sendCommand (time : Nat) (hheart : s.heartbeat ≠ .returned) (hcommand : s.command = none)
      (htime : time ≤ commandLimit) :
      Moves s (.sendCommand time) { s with
        queue := s.queue ++ [⟨.command s.nextID, time⟩]
        command := some (s.nextID, s.now + commandLimit)
        nextID := s.nextID + 1 }
  | reply (job : Job) (rest : List Job) (hqueue : s.queue = job :: rest) (hleft : job.left = 0) :
      Moves s .reply ({ s with queue := rest }.resolve job.request)
  | heartbeatTimeout (deadline : Nat) (hheart : s.heartbeat = .waiting deadline)
      (hlate : deadline ≤ s.now) : Moves s .heartbeatTimeout { s with heartbeat := .returned }
  | commandTimeout (id deadline : Nat) (hcommand : s.command = some (id, deadline))
      (hlate : deadline ≤ s.now) : Moves s .commandTimeout { s with command := none }

theorem step_moves {s t : State} {a : Action} (hstep : step s a = some t) : Moves s a t := by
  cases a with
  | wait d =>
    simp only [step] at hstep
    split at hstep
    · next hwait =>
      cases hstep
      exact .wait d hwait
    · cases hstep
  | sendHeartbeat =>
    simp only [step] at hstep
    split at hstep
    · next wake hheart =>
      split at hstep
      · next hwake =>
        cases hstep
        exact .sendHeartbeat wake hheart hwake
      · cases hstep
    · cases hstep
  | sendCommand time =>
    simp only [step] at hstep
    split at hstep
    · next hguard =>
      cases hstep
      exact .sendCommand time hguard.1 hguard.2.1 hguard.2.2
    · cases hstep
  | reply =>
    simp only [step] at hstep
    split at hstep
    · cases hstep
    · next job rest hqueue =>
      split at hstep
      · next hleft =>
        cases hstep
        exact .reply job rest hqueue hleft
      · cases hstep
  | heartbeatTimeout =>
    simp only [step] at hstep
    split at hstep
    · next deadline hheart =>
      split at hstep
      · next hlate =>
        cases hstep
        exact .heartbeatTimeout deadline hheart hlate
      · cases hstep
    · cases hstep
  | commandTimeout =>
    simp only [step] at hstep
    split at hstep
    · next id deadline hcommand =>
      split at hstep
      · next hlate =>
        cases hstep
        exact .commandTimeout id deadline hcommand hlate
      · cases hstep
    · cases hstep

/-- The work that waits at the slave. -/
def work (queue : List Job) : Nat := (queue.map Job.left).sum

@[simp] theorem work_nil : work [] = 0 := rfl

@[simp] theorem work_cons (job : Job) (queue : List Job) :
    work (job :: queue) = job.left + work queue := List.sum_cons

@[simp] theorem work_append (q q' : List Job) : work (q ++ q') = work q + work q' := by
  unfold work
  rw [List.map_append, List.sum_append]

/-- A heartbeat is sent only while its reply can be there in time. -/
def InTime (s : State) (a : Action) : Prop :=
  a = .sendHeartbeat → work s.queue + samplingTime < heartbeatLimit

/-! ## Heartbeats sent in time -/

/-- The heartbeat that is waited for will be done before its deadline. -/
def OnTime (s : State) : Prop :=
  match s.heartbeat with
  | .sleeping _ => True
  | .waiting deadline => ∃ before left after,
      s.queue = before ++ ⟨.heartbeat, left⟩ :: after ∧ s.now + work before + left < deadline
  | .returned => False

theorem mayWait_head {s : State} {d : Nat} {job : Job} {rest : List Job}
    (hwait : s.mayWait d = true) (hqueue : s.queue = job :: rest) : d ≤ job.left := by
  unfold State.mayWait at hwait
  rw [hqueue] at hwait
  simp only [List.head?_cons, Option.all_some, Bool.and_eq_true, decide_eq_true_eq] at hwait
  exact hwait.1.1

/-- What is left of the first packet shrinks as the clock goes on. -/
theorem onTime_wait {s : State} {d : Nat} (hs : OnTime s) (hwait : s.mayWait d = true) :
    OnTime { s with now := s.now + d, queue := serve d s.queue } := by
  unfold OnTime at hs ⊢
  split
  · trivial
  · next deadline hheart =>
    rw [hheart] at hs
    obtain ⟨before, left, after, hqueue, hlt⟩ := hs
    cases before with
    | nil =>
      have hd : d ≤ left := mayWait_head hwait hqueue
      refine ⟨[], left - d, after, by rw [hqueue]; rfl, ?_⟩
      simp only [work_nil] at hlt ⊢
      omega
    | cons job before =>
      have hd := mayWait_head hwait hqueue
      refine ⟨{ job with left := job.left - d } :: before, left, after, by rw [hqueue]; rfl, ?_⟩
      simp only [work_cons] at hlt ⊢
      omega
  · next hheart =>
    rw [hheart] at hs
    exact hs

/-- The first packet is done: it is the heartbeat, or one before it. -/
theorem onTime_resolve {s : State} {job : Job} {rest : List Job} (hs : OnTime s)
    (hqueue : s.queue = job :: rest) : OnTime ({ s with queue := rest }.resolve job.request) := by
  have hrest : ∀ id, job.request = .command id → OnTime { s with queue := rest } := by
    intro id hid
    unfold OnTime at hs ⊢
    split
    · trivial
    · next deadline hheart =>
      rw [hheart] at hs
      obtain ⟨before, left, after, hsplit, hlt⟩ := hs
      cases before with
      | nil =>
        -- the first packet is a command
        rw [hqueue] at hsplit
        cases hsplit
        cases hid
      | cons _ before =>
        rw [hqueue] at hsplit
        cases hsplit
        refine ⟨before, left, after, rfl, ?_⟩
        simp only [work_cons] at hlt
        show s.now + work before + left < deadline
        omega
    · next hheart =>
      rw [hheart] at hs
      exact hs
  cases hrequest : job.request with
  | heartbeat =>
    unfold State.resolve OnTime at *
    cases hheart : s.heartbeat with
    | sleeping wake => simp only
    | waiting deadline => simp only
    | returned =>
      rw [hheart] at hs
      exact hs.elim
  | command id =>
    have hs' := hrest id hrequest
    unfold State.resolve
    dsimp only
    split
    · exact hs'
    · exact hs'

theorem step_onTime {s t : State} {a : Action} (hs : OnTime s) (hok : InTime s a)
    (hstep : step s a = some t) : OnTime t := by
  cases step_moves hstep with
  | wait d hwait => exact onTime_wait hs hwait
  | sendHeartbeat wake hheart hwake =>
    -- the packets before it leave it enough time
    have hwork := hok rfl
    refine ⟨s.queue, samplingTime, [], rfl, ?_⟩
    show s.now + work s.queue + samplingTime < s.now + heartbeatLimit
    omega
  | sendCommand time hheart hcommand htime =>
    unfold OnTime at hs ⊢
    dsimp only
    split
    · trivial
    · next deadline hheart =>
      rw [hheart] at hs
      obtain ⟨before, left, after, hqueue, hlt⟩ := hs
      refine ⟨before, left, after ++ [⟨.command s.nextID, time⟩], ?_, hlt⟩
      rw [hqueue, List.append_assoc, List.cons_append]
    · next hheart =>
      rw [hheart] at hs
      exact hs
  | reply job rest hqueue hleft => exact onTime_resolve hs hqueue
  | heartbeatTimeout deadline hheart hlate =>
    -- its reply would be here
    unfold OnTime at hs
    rw [hheart] at hs
    obtain ⟨before, left, after, -, hlt⟩ := hs
    omega
  | commandTimeout id deadline hcommand hlate => exact hs

/-! ## Heartbeats sent too late -/

/-- At most the heartbeat that is waited for is at the slave, and the
command's deadline is not over. -/
structure Sane (s : State) : Prop where
  sleeping : ∀ wake, s.heartbeat = .sleeping wake → ∀ job ∈ s.queue, job.request ≠ .heartbeat
  waiting : ∀ deadline, s.heartbeat = .waiting deadline → ∃ before left after,
    s.queue = before ++ ⟨.heartbeat, left⟩ :: after ∧
      ∀ job ∈ before ++ after, job.request ≠ .heartbeat
  command : ∀ id deadline, s.command = some (id, deadline) → s.now ≤ deadline

theorem mem_serve {d : Nat} {queue : List Job} {job : Job} (hjob : job ∈ serve d queue) :
    ∃ job' ∈ queue, job'.request = job.request := by
  cases queue with
  | nil => cases hjob
  | cons first rest =>
    rcases List.mem_cons.mp hjob with rfl | hmem
    · exact ⟨first, List.mem_cons_self, rfl⟩
    · exact ⟨job, List.mem_cons_of_mem first hmem, rfl⟩

theorem mayWait_command {s : State} {d id deadline : Nat} (hwait : s.mayWait d = true)
    (hcommand : s.command = some (id, deadline)) : s.now + d ≤ deadline := by
  unfold State.mayWait at hwait
  rw [hcommand] at hwait
  simp only [Option.all_some, Bool.and_eq_true, decide_eq_true_eq] at hwait
  exact hwait.2

/-- The first packet is done. -/
theorem sane_resolve {s : State} {job : Job} {rest : List Job} (hs : Sane s)
    (hqueue : s.queue = job :: rest) : Sane ({ s with queue := rest }.resolve job.request) := by
  have hmem : ∀ job' ∈ rest, job' ∈ s.queue := fun job' h =>
    hqueue ▸ List.mem_cons_of_mem job h
  cases hrequest : job.request with
  | heartbeat =>
    unfold State.resolve
    dsimp only
    split
    · -- it was the only one
      next deadline hheart =>
      refine ⟨fun wake _ => ?_, fun _ h => (nomatch h), hs.command⟩
      obtain ⟨before, left, after, hsplit, hrest⟩ := hs.waiting deadline hheart
      rw [hqueue] at hsplit
      cases before with
      | nil =>
        cases hsplit
        exact hrest
      | cons first before =>
        cases hsplit
        exact absurd hrequest (hrest job List.mem_cons_self)
    · next hheart =>
      refine ⟨fun wake h job' hjob => hs.sleeping wake h job' (hmem job' hjob),
        fun deadline h => absurd h (hheart deadline), hs.command⟩
  | command id =>
    have hs' : Sane { s with queue := rest } := by
      refine ⟨fun wake h job' hjob => hs.sleeping wake h job' (hmem job' hjob),
        fun deadline hheart => ?_, hs.command⟩
      obtain ⟨before, left, after, hsplit, hrest⟩ := hs.waiting deadline hheart
      rw [hqueue] at hsplit
      cases before with
      | nil =>
        cases hsplit
        cases hrequest
      | cons first before =>
        cases hsplit
        exact ⟨before, left, after, rfl, fun job' h => hrest job' (List.mem_cons_of_mem job h)⟩
    unfold State.resolve
    dsimp only
    split
    · exact ⟨hs'.sleeping, hs'.waiting, fun _ _ h => nomatch h⟩
    · exact hs'

theorem step_sane {s t : State} {a : Action} (hs : Sane s) (hstep : step s a = some t) :
    Sane t := by
  cases step_moves hstep with
  | wait d hwait =>
    refine ⟨fun wake hheart job hjob => ?_, fun deadline hheart => ?_, fun id deadline hcommand => ?_⟩
    · obtain ⟨job', hmem, hsame⟩ := mem_serve hjob
      exact hsame ▸ hs.sleeping wake hheart job' hmem
    · obtain ⟨before, left, after, hqueue, hrest⟩ := hs.waiting deadline hheart
      cases before with
      | nil => exact ⟨[], left - d, after, by rw [hqueue]; rfl, hrest⟩
      | cons job before =>
        refine ⟨{ job with left := job.left - d } :: before, left, after, by rw [hqueue]; rfl, ?_⟩
        rw [List.cons_append, List.forall_mem_cons] at hrest ⊢
        exact hrest
    · exact mayWait_command hwait hcommand
  | sendHeartbeat wake hheart hwake =>
    refine ⟨fun _ h => (nomatch h), fun _ _ => ⟨s.queue, samplingTime, [], rfl, ?_⟩, hs.command⟩
    rw [List.append_nil]
    exact hs.sleeping wake hheart
  | sendCommand time hheart hcommand htime =>
    refine ⟨fun wake hheart => ?_, fun deadline hheart => ?_, ?_⟩
    · rw [List.forall_mem_append, List.forall_mem_singleton]
      exact ⟨hs.sleeping wake hheart, fun h => nomatch h⟩
    · obtain ⟨before, left, after, hqueue, hrest⟩ := hs.waiting deadline hheart
      refine ⟨before, left, after ++ [⟨.command s.nextID, time⟩], ?_, ?_⟩
      · rw [hqueue, List.append_assoc, List.cons_append]
      · rw [← List.append_assoc, List.forall_mem_append, List.forall_mem_singleton]
        exact ⟨hrest, fun h => nomatch h⟩
    · rintro id deadline ⟨⟩
      exact Nat.le_add_right ..
  | reply job rest hqueue hleft => exact sane_resolve hs hqueue
  | heartbeatTimeout deadline hheart hlate =>
    exact ⟨fun _ h => (nomatch h), fun _ h => (nomatch h), hs.command⟩
  | commandTimeout id deadline hcommand hlate =>
    exact ⟨hs.sleeping, hs.waiting, fun _ _ h => nomatch h⟩

/-- The clock can go on to any time before the heartbeat's deadline for
which the slave has work on its first packet. -/
theorem exists_wait {s : State} {job : Job} {rest : List Job} {deadline d : Nat}
    (hqueue : s.queue = job :: rest) (hheart : s.heartbeat = .waiting deadline)
    (hcommand : ∀ id e, s.command = some (id, e) → s.now ≤ e) (hd : d ≤ job.left)
    (hdeadline : s.now + d ≤ deadline) :
    ∃ as t, run step s as = some t ∧ t.now = s.now + d ∧
      t.queue = { job with left := job.left - d } :: rest ∧ t.heartbeat = .waiting deadline ∧
      ∀ id e, t.command = some (id, e) → t.now ≤ e := by
  have hmay : ∀ (s' : State) (job' : Job) (d' : Nat), s'.queue = job' :: rest →
      s'.heartbeat = .waiting deadline → d' ≤ job'.left → s'.now + d' ≤ deadline →
      (∀ id e, s'.command = some (id, e) → s'.now + d' ≤ e) →
      step s' (.wait d') = some { s' with
        now := s'.now + d', queue := { job' with left := job'.left - d' } :: rest } := by
    intro s' job' d' hq hh hl hn hc
    have hwait : s'.mayWait d' = true := by
      unfold State.mayWait
      rw [hq, hh]
      cases hcmd : s'.command with
      | none => simp [hl, hn]
      | some c => simp [hl, hn, hc c.1 c.2 hcmd]
    simp only [step, if_pos hwait, hq, serve]
  by_cases hover : ∃ id e, s.command = some (id, e) ∧ e < s.now + d
  · -- the command times out on the way
    obtain ⟨id, e, hcmd, he⟩ := hover
    have hnow := hcommand id e hcmd
    have hfirst := hmay s job (e - s.now) hqueue hheart (by omega) (by omega) fun id' e' hcmd' => by
      cases hcmd.symm.trans hcmd'
      omega
    have hexpired : s.now + (e - s.now) = e := by omega
    rw [hexpired] at hfirst
    have hsecond := hmay { s with
        now := e, command := none, queue := { job with left := job.left - (e - s.now) } :: rest }
      { job with left := job.left - (e - s.now) } (s.now + d - e) rfl hheart
      (by show _ ≤ job.left - (e - s.now); omega) (by show e + _ ≤ deadline; omega)
      fun _ _ h => nomatch h
    have htimeout : step { s with
        now := e, queue := { job with left := job.left - (e - s.now) } :: rest } .commandTimeout =
        some { s with
          now := e, command := none, queue := { job with left := job.left - (e - s.now) } :: rest } := by
      simp only [step, hcmd, if_pos (Nat.le_refl e)]
    refine ⟨[.wait (e - s.now), .commandTimeout, .wait (s.now + d - e)], _,
      run_cons_eq_some.mpr ⟨_, hfirst, run_cons_eq_some.mpr ⟨_, htimeout,
        run_cons_eq_some.mpr ⟨_, hsecond, rfl⟩⟩⟩, ?_, ?_, hheart, fun _ _ h => nomatch h⟩
    · show e + (s.now + d - e) = s.now + d
      omega
    · show { job with left := job.left - (e - s.now) - (s.now + d - e) } :: rest = _
      rw [Nat.sub_sub]
      have hsum : e - s.now + (s.now + d - e) = d := by omega
      rw [hsum]
  · refine ⟨[.wait d], _, run_cons_eq_some.mpr ⟨_, hmay s job d hqueue hheart hd hdeadline ?_, rfl⟩,
      rfl, rfl, hheart, ?_⟩
    · intro id e hcmd
      by_contra hlt
      exact hover ⟨id, e, hcmd, by omega⟩
    · intro id e hcmd
      by_contra hlt
      exact hover ⟨id, e, hcmd, Nat.lt_of_not_le hlt⟩

/-- A heartbeat behind too much work is not answered in time, if nothing
else is sent. -/
theorem exists_returned {s : State} {before after : List Job} {left deadline : Nat}
    (hheart : s.heartbeat = .waiting deadline)
    (hqueue : s.queue = before ++ ⟨.heartbeat, left⟩ :: after)
    (hbefore : ∀ job ∈ before, job.request ≠ .heartbeat)
    (hcommand : ∀ id e, s.command = some (id, e) → s.now ≤ e) (hnow : s.now ≤ deadline)
    (hlate : deadline ≤ s.now + work before + left) :
    ∃ as t, run step s as = some t ∧ t.heartbeat = .returned := by
  -- while the first packet takes until the deadline
  have hexpire : ∀ (s : State) (job : Job) (rest : List Job), s.queue = job :: rest →
      s.heartbeat = .waiting deadline → (∀ id e, s.command = some (id, e) → s.now ≤ e) →
      s.now ≤ deadline → deadline ≤ s.now + job.left →
      ∃ as t, run step s as = some t ∧ t.heartbeat = .returned := by
    intro s job rest hq hh hc hn hl
    obtain ⟨as, t, hrun, htnow, -, hth, -⟩ :=
      exists_wait hq hh hc (d := deadline - s.now) (by omega) (by omega)
    refine ⟨as ++ [.heartbeatTimeout], { t with heartbeat := .returned }, ?_, rfl⟩
    have hdue : deadline ≤ t.now := by omega
    rw [run_append, hrun, Option.bind_some, run_cons]
    simp only [step, hth, if_pos hdue, Option.bind_some, run_nil]
  induction before generalizing s with
  | nil =>
    rw [work_nil, Nat.add_zero] at hlate
    exact hexpire s _ after hqueue hheart hcommand hnow hlate
  | cons job before ih =>
    rw [work_cons] at hlate
    by_cases hjob : deadline ≤ s.now + job.left
    · exact hexpire s job _ hqueue hheart hcommand hnow hjob
    · -- the first packet is done before the deadline
      obtain ⟨as, t, hrun, htnow, htq, hth, htc⟩ :=
        exists_wait hqueue hheart hcommand (Nat.le_refl job.left) (by omega)
      have hreply : step t .reply =
          some (State.resolve { t with queue := before.append (⟨.heartbeat, left⟩ :: after) }
            job.request) := by
        simp only [step, htq, Nat.sub_self, if_true]
      have hbefore' := List.forall_mem_cons.mp hbefore
      -- a reply to a command changes nothing but the command
      obtain ⟨u, hu, hunow, huq, huh, huc⟩ : ∃ u, step t .reply = some u ∧ u.now = t.now ∧
          u.queue = before ++ ⟨.heartbeat, left⟩ :: after ∧ u.heartbeat = .waiting deadline ∧
          ∀ id e, u.command = some (id, e) → u.now ≤ e := by
        refine ⟨_, hreply, ?_⟩
        unfold State.resolve
        split
        · next hrequest => exact absurd hrequest hbefore'.1
        · split
          · exact ⟨rfl, rfl, hth, fun _ _ h => nomatch h⟩
          · exact ⟨rfl, rfl, hth, htc⟩
      obtain ⟨bs, v, hv, hreturned⟩ := ih huh huq hbefore'.2 huc (by omega) (by omega)
      refine ⟨as ++ .reply :: bs, v, ?_, hreturned⟩
      rw [run_append, hrun, Option.bind_some]
      exact run_cons_eq_some.mpr ⟨u, hu, hv⟩

/-- A heartbeat that is sent while there are 2 s of work or more at the slave
may make the master drop it: nothing more has to be sent for it. -/
theorem late_heartbeat_returns {as : List Action} {s t : State} (hrun : run step {} as = some s)
    (hsend : step s .sendHeartbeat = some t) (hlate : ¬ InTime s .sendHeartbeat) :
    ∃ bs u, run step t bs = some u ∧ u.heartbeat = .returned := by
  have hsane : Sane s := by
    refine run_invariant (fun s a t hs hstep => step_sane hs hstep) ?_ hrun
    exact ⟨fun _ _ _ h => (nomatch h), fun _ h => (nomatch h), fun _ _ h => nomatch h⟩
  have hwork : ¬ work s.queue + samplingTime < heartbeatLimit := fun h => hlate fun _ => h
  cases step_moves hsend with
  | sendHeartbeat wake hheart hwake =>
    refine exists_returned rfl rfl (hsane.sleeping wake hheart) hsane.command ?_ ?_
    · exact Nat.le_add_right ..
    · show s.now + heartbeatLimit ≤ s.now + work s.queue + samplingTime
      omega

/-! ## The registration -/

/-- **A busy node is kept while its heartbeats are in time.** In every run of
heartbeats and commands in which each heartbeat is sent while less than 2 s
of work wait at the slave, `handleConnection` never leaves its loop. -/
theorem busy_node_kept (as : List Action) (hmeets : Meets step InTime {} as) :
    Holds step (fun s => s.heartbeat ≠ .returned) {} as := by
  have honTime : Holds step OnTime {} as :=
    holds_of_meets (fun _ _ _ hs hok hstep => step_onTime hs hok hstep) trivial hmeets
  refine honTime.mono fun s hs hreturned => ?_
  unfold OnTime at hs
  rw [hreturned] at hs
  exact hs

/-- Two rounds of heartbeats, with a command of 1.9 s before the second. -/
def busyRounds : List Action :=
  [.sendHeartbeat, .wait samplingTime, .reply, .wait heartbeatPause, .sendCommand 1900000000,
    .sendHeartbeat, .wait 1900000000, .reply, .wait samplingTime, .reply]

/-- The reply of the second round comes 4.9 s after its heartbeat. -/
theorem busy_node_kept_rounds :
    (∃ t, run step {} busyRounds = some t ∧ t.now = 17900000000) ∧
      Holds step (fun s => s.heartbeat ≠ .returned) {} busyRounds := by
  refine ⟨⟨_, rfl, rfl⟩, busy_node_kept busyRounds ?_⟩
  simp [busyRounds, Meets, InTime, step, State.mayWait, State.resolve, serve, samplingTime,
    heartbeatLimit, heartbeatPause, commandLimit, second]

/-- The slave is busy with a command, within the 10 s that the master gives
it, and the master drops it for a heartbeat. -/
theorem busy_node_dropped :
    ∃ t, run step {} [.sendCommand commandLimit, .sendHeartbeat, .wait heartbeatLimit,
      .heartbeatTimeout] = some t ∧ t.heartbeat = .returned :=
  ⟨_, rfl, rfl⟩

end Centralisd.Busy
