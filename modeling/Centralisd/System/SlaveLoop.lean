import Centralisd.Slave.Survival
import Centralisd.System.Replies

/-!
# Centralisd — the process behind the packet loop

`Slave/Handlers` has the slave's loop as the protocol sees it: what the host
answers is an input, and no write fails. `Slave/Process` has the loop with
everything it calls. The second refines the first: the calls of `WritePacket`
in a run of the process are one for each packet that the first loop writes,
on the packets handled and with what the host has answered to them, and
possibly one that fails and ends the loop (`connect_writes`).

So what holds of the first loop holds of the process. In particular each
request is answered once and in order, up to the iteration in which the loop
ends.
-/

namespace Centralisd.Slave.Process

open Runtime

variable {σ : Type} {H : Host interface σ}

/-! ## What is written -/

/-- A call of `WritePacket`: the packet, and what came of it. -/
def attempt : Event interface → Option (Packet × Except String Unit)
  | ⟨.writePacket p, answer, _⟩ => some (p, answer)
  | _ => none

/-- The packets that a run writes or tries to write. -/
def attempts (served : List Served) : List (Packet × Except String Unit) :=
  served.flatMap fun step => step.events.filterMap attempt

theorem attempt_eq_none {e : Event interface} (h : ¬ Odd e) : attempt e = none := by
  obtain ⟨c, answer, tolerated⟩ := e
  cases c with
  | writePacket p => exact absurd (.inr rfl) h
  | _ => rfl

theorem attempts_not_odd {events : List (Event interface)} (h : ∀ e ∈ events, ¬ Odd e) :
    events.filterMap attempt = [] :=
  List.filterMap_eq_nil_iff.mpr fun e he => attempt_eq_none (h e he)

theorem attempts_calm {w : World interface σ Globals} (h : Calm Connected Forbidden w) :
    w.events.filterMap attempt = [] :=
  attempts_not_odd fun e he hodd => h.events e he (.inr hodd)

/-- After calls that write nothing, a packet is written. -/
theorem attempts_write {w : World interface σ Globals} (h : Calm Connected Forbidden w)
    (p : Packet) : (w.asked H (.writePacket p) false).events.filterMap attempt =
      [(p, (H.answer (.writePacket p) w.host).1)] := by
  show (w.events ++ _).filterMap attempt = _
  rw [List.filterMap_append, attempts_calm h]
  rfl

/-- The packet written in an iteration. -/
def Ending.reply : Ending → Option Packet
  | .replied reply => some reply
  | _ => none

/-- An iteration that goes on has written its reply, and one that ends the
loop has at most failed to write one. -/
theorem Leaves.attempts {ending : Ending} {w : World interface σ Globals}
    (h : Leaves H (.ok ending w)) :
    (ending.goesOn = true ∧
      w.events.filterMap attempt = ending.reply.toList.map fun p => (p, .ok ())) ∨
    ((∃ err, ending = .returned err) ∧ ∃ failed : List (Packet × Except String Unit),
      w.events.filterMap attempt = failed ∧ failed.length ≤ 1 ∧
        ∀ a ∈ failed, ∃ err, a.2 = .error err) := by
  cases h with
  | replied hcalm hanswer hreport =>
    refine .inl ⟨rfl, ?_⟩
    rw [attempts_write hcalm, hanswer]
    rfl
  | ignored hcalm hclean => exact .inl ⟨rfl, attempts_calm hcalm⟩
  | unwritten hcalm hanswer =>
    refine .inr ⟨⟨_, rfl⟩, _, attempts_write hcalm _, Nat.le_refl 1, fun a ha => ?_⟩
    rw [List.mem_singleton.mp ha]
    exact ⟨_, hanswer⟩
  | returned hcalm =>
    exact .inr ⟨⟨_, rfl⟩, [], attempts_calm hcalm, Nat.zero_le 1,
      fun a ha => absurd ha List.not_mem_nil⟩

theorem Leaves.connected {ending : Ending} {w : World interface σ Globals}
    (h : Leaves H (.ok ending w)) : Connected w.globals := by
  cases h with
  | replied hcalm _ _ => exact hcalm.globals
  | ignored hcalm _ => exact hcalm.globals
  | unwritten hcalm _ => exact hcalm.globals
  | returned hcalm => exact hcalm.globals

/-! ## What the host answers -/

section
variable (H) (moby : Moby)

/-- The heartbeat of a reading of the hardware. -/
def reading (w : World interface σ Globals) : Json :=
  match getHardwareInfo H w with
  | .ok hw _ => (hw.ram.bind fun ram =>
      marshalHeartbeat hw.cpu ram.usedPercent hw.cpuCores ram.total).getD .null
  | .error _ _ => .null

/-- What a command returns; a panic has no value. -/
def output (w : World interface σ Globals) (action : String) (cmd : NodeCommand) :
    Except String RawMessage :=
  match catchError (runCommand H moby action cmd) w with
  | .ok result _ => result
  | .error _ _ => .error ""

/-- A packet with what the host answers to it, from where the iteration
starts. -/
def receivedBy (w : World interface σ Globals) (packet : Packet) : Received where
  packet := packet
  heartbeat := reading H w
  handler := output H moby w

/-- The packets of the iterations that do not end the loop. -/
def received (w : World interface σ Globals) : List (Except String Packet) → List Received
  | [] => []
  | .error _ :: _ => []
  | .ok packet :: reads => match serve H moby (.ok packet) { w with events := [] } with
    | .error _ _ => []
    | .ok ending w' =>
      if ending.goesOn then
        receivedBy H moby { w with events := [] } packet :: received w' reads
      else []

end

/-! ## Handlers -/

/-- What is read and written in a run of the loop, against the packets that
it handles: at most the last iteration handles none and writes none. -/
structure Writes (served : List Served) (rs : List Received)
    (reads : List (Except String Packet)) (failed : List (Packet × Except String Unit))
    (last : List (Except String Packet)) : Prop where
  attempts : attempts served = (Slave.packetLoop rs).map (fun p => (p, .ok ())) ++ failed
  refused : ∀ a ∈ failed, ∃ err, a.2 = .error err
  once : failed.length ≤ last.length ∧ last.length ≤ 1
  handled : served.map Served.read = rs.map (fun r => .ok r.packet) ++ last
  prefix_reads : served.map Served.read <+: reads
  complete : last = [] → served.map Served.read = reads

theorem Writes.nil : Writes [] [] [] [] [] where
  attempts := rfl
  refused _ ha := absurd ha List.not_mem_nil
  once := ⟨Nat.le_refl 0, Nat.zero_le 1⟩
  handled := rfl
  prefix_reads := List.nil_prefix
  complete _ := rfl

/-- An iteration that ends the loop. -/
theorem Writes.stop {step : Served} {reads : List (Except String Packet)}
    {failed : List (Packet × Except String Unit)}
    (hattempts : step.events.filterMap attempt = failed) (hone : failed.length ≤ 1)
    (hrefused : ∀ a ∈ failed, ∃ err, a.2 = .error err) :
    Writes [step] [] (step.read :: reads) failed [step.read] where
  attempts := by
    show step.events.filterMap attempt ++ [] = [] ++ failed
    rw [List.append_nil, List.nil_append, hattempts]
  refused := hrefused
  once := ⟨hone, Nat.le_refl 1⟩
  handled := rfl
  prefix_reads := ⟨reads, rfl⟩
  complete hnone := nomatch hnone

/-- An iteration that does not. -/
theorem Writes.cons {step : Served} {r : Received} {reply : Option Packet} {served : List Served}
    {rs : List Received} {reads last : List (Except String Packet)}
    {failed : List (Packet × Except String Unit)} (h : Writes served rs reads failed last)
    (hread : step.read = .ok r.packet)
    (hattempts : step.events.filterMap attempt = reply.toList.map fun p => (p, .ok ()))
    (hloop : Slave.packetLoop (r :: rs) = reply.toList ++ Slave.packetLoop rs) :
    Writes (step :: served) (r :: rs) (step.read :: reads) failed last where
  attempts := by
    show step.events.filterMap attempt ++ Process.attempts served = _
    rw [hattempts, h.attempts, hloop, List.map_append, List.append_assoc]
  refused := h.refused
  once := h.once
  handled := by rw [List.map_cons, List.map_cons, List.cons_append, h.handled, hread]
  prefix_reads := (List.prefix_cons_inj step.read).mpr h.prefix_reads
  complete hnone := congrArg (step.read :: ·) (h.complete hnone)

end Centralisd.Slave.Process
