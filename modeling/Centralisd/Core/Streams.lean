import Centralisd.Core.Framing
import Centralisd.Lib.Serial

/-!
# Centralisd — many writers on one connection

A connection is written by several goroutines: on the orchestrator the
`handleConn` loop and every `sendRequest` caller (`connWriter.mu`), on a
master the heartbeat and every forwarded command (`nodeConn.mu`), and its
`connectLoop` and `readOrchestratorLoop` (`packetWriter.mu`). Each takes the
mutex, writes one line and flushes. `bufio.Writer` hands a line to the
connection in pieces, and after an error it accepts nothing more.

A line is a sequence of characters here, and so is a piece of it: a cut inside
the bytes of one character is not represented.

Elsewhere a connection is a queue of packets, and writing one is a single
step. `writers_never_tear` justifies this: whatever the interleaving, and
wherever a write fails, the connection reads as the packets whose lines are
complete, in the order of the mutex; and so does what has arrived of it so
far, up to some packet.
-/

namespace Centralisd

open Machine Serial

/-- A call of one of the writers. -/
structure Send where
  writer : Writer
  packet : WirePacket
  sendable : packet.Sendable

/-- What the call puts on the connection. -/
def Send.frame (call : Send) : List Char :=
  match call.writer.write [] call.packet with
  | .ok frame => frame
  | .error _ => []

/-- A connection with its writers. -/
abbrev Wire (T : Type) := Serial.State T Send Char

/-- Reading gives these packets and then the end. -/
def ReadsAs (stream : List Char) (packets : List Packet) : Prop :=
  ∀ n, (readPackets (packets.length + n) stream).map (Except.map WirePacket.toPacket) =
    packets.map .ok ++ List.replicate n (.error "EOF")

/-- The packets whose lines are complete, in the order of the mutex. -/
def packetsWritten {T : Type} (calls : List (T × Send)) : List Packet :=
  calls.map fun call => call.2.packet.toPacket

/-! ## One line -/

/-- A call puts one line on the connection, which reads as its packet. -/
theorem Send.frame_line (call : Send) :
    ∃ line q, call.frame = line ++ ['\n'] ∧ '\n' ∉ line ∧ q.toPacket = call.packet.toPacket ∧
      ∀ rest, readPacket (call.frame ++ rest) = (.ok q, rest) := by
  obtain ⟨payload, htrees⟩ := call.sendable.trees
  obtain ⟨q, hq, hsame⟩ := decodeLine_line call.sendable.type htrees
  have hframe : call.frame = call.packet.line payload ++ ['\n'] := by
    rw [Send.frame, call.writer.write_line call.sendable.type htrees]
    rfl
  have hbreak : '\n' ∉ call.packet.line payload :=
    (WirePacket.line_oneLine htrees).not_mem (by decide)
  refine ⟨call.packet.line payload, q, hframe, hbreak, hsame.toPacket_eq, fun rest => ?_⟩
  rw [hframe, List.append_assoc, List.singleton_append, readPacket, readString_line hbreak]
  dsimp only
  rw [hq]

theorem Send.frame_ne_nil (call : Send) : call.frame ≠ [] := by
  obtain ⟨line, q, hframe, -⟩ := call.frame_line
  rw [hframe]
  exact List.append_ne_nil_of_right_ne_nil _ (List.cons_ne_nil _ _)

/-- A piece of a line has no line end. -/
theorem not_mem_of_torn {piece : List Char} (h : Torn Send.frame piece) : '\n' ∉ piece := by
  rcases h with rfl | ⟨call, rest, hrest, hpiece⟩
  · exact List.not_mem_nil
  · obtain ⟨line, q, hframe, hbreak, -⟩ := call.frame_line
    have hprefix : piece <+: line ++ ['\n'] := ⟨rest, hpiece.symm.trans hframe⟩
    rcases List.prefix_concat_iff.mp hprefix with hall | hin
    · -- then nothing of the line is left
      have hlen : (piece ++ rest).length = piece.length := by rw [← hpiece, hframe, hall]
      rw [List.length_append] at hlen
      exact absurd (List.length_eq_zero_iff.mp (by omega)) hrest
    · exact fun hmem => hbreak (hin.subset hmem)

/-! ## Streams -/

theorem readsAs_piece {piece : List Char} (h : '\n' ∉ piece) : ReadsAs piece [] := by
  have hread : readPacket piece = (.error "EOF", []) := by
    have hdrop : piece.dropWhile (· != '\n') = [] := by
      refine List.dropWhile_eq_nil_iff.mpr fun c hc => ?_
      rw [bne_iff_ne]
      rintro rfl
      exact h hc
    rw [readPacket, readString, hdrop]
  intro n
  rw [List.length_nil, Nat.zero_add]
  cases n with
  | zero => rfl
  | succ n =>
    rw [readPackets, hread, readPackets_nil, List.map_cons, List.map_replicate]
    rfl

theorem readsAs_whole {T : Type} (calls : List (T × Send)) {piece : List Char}
    (h : Torn Send.frame piece) :
    ReadsAs (whole Send.frame calls ++ piece) (packetsWritten calls) := by
  induction calls with
  | nil => exact readsAs_piece (not_mem_of_torn h)
  | cons call calls ih =>
    obtain ⟨line, q, -, -, hq, hread⟩ := call.2.frame_line
    intro n
    have hsplit : whole Send.frame (call :: calls) ++ piece =
        call.2.frame ++ (whole Send.frame calls ++ piece) := List.append_assoc _ _ _
    rw [hsplit, packetsWritten, List.map_cons, List.length_cons, Nat.add_right_comm, readPackets,
      hread, List.map_cons]
    show Except.ok q.toPacket :: _ = Except.ok call.2.packet.toPacket :: _
    rw [hq]
    exact congrArg _ (ih n)

/--
**No packet is torn.** However the writers interleave and wherever a write
fails, the connection holds whole packets, in the order of the mutex and each
writer's in its own order, and any beginning of it holds a beginning of them.
A call that returns without an error has its packet among them.
-/
theorem writers_never_tear {T : Type} [DecidableEq T] (program : T → List Send)
    (as : List (Serial.Action T)) (s : Wire T)
    (hrun : run (Serial.step Send.frame) (Serial.init program) as = some s) :
    ReadsAs s.stream (packetsWritten s.written) ∧
    (∀ arrived, arrived <+: s.stream → ∃ k, ReadsAs arrived ((packetsWritten s.written).take k)) ∧
    s.returned <+: s.written ∧
    ∀ t, ((s.written.filter fun call => call.1 = t).map Prod.snd) <+: program t := by
  have hinv := Serial.inv_run Send.frame_ne_nil hrun
  obtain ⟨piece, htorn, hstream⟩ := hinv.stream
  refine ⟨?_, ?_, hinv.returned_prefix, fun t => ?_⟩
  · rw [hstream]
    exact readsAs_whole s.written htorn
  · intro arrived harrived
    rw [hstream] at harrived
    obtain ⟨k, piece', htorn', rfl, -⟩ := exists_cut htorn harrived
    refine ⟨k, ?_⟩
    rw [packetsWritten, ← List.map_take]
    exact readsAs_whole (s.written.take k) htorn'
  · have hprefix := (hinv.written_prefix.filter fun call => call.1 = t).map Prod.snd
    exact hprefix.trans ⟨s.todo t, hinv.order t⟩

/-- A heartbeat, and an error packet at the same time. -/
def demoWriters : Bool → List Send
  | true => [⟨.writePacket, { type := packetHeartbeat, id := "h" }, ⟨by decide, .inl rfl⟩⟩]
  | false => [⟨.writeLine, { type := packetError, error := "late" }, ⟨by decide, .inl rfl⟩⟩]

/-- The connection fails in the middle of the second packet. -/
def demoActions : List (Serial.Action Bool) :=
  [.lock true, .put 4, .put 26, .unlock, .lock false, .put 5, .fail 2, .unlock]

theorem writers_never_tear_demo :
    ∃ s, run (Serial.step Send.frame) (Serial.init demoWriters) demoActions = some s ∧
      packetsWritten s.written = [{ type := packetHeartbeat, id := "h" }] ∧
      s.stream = "\x7b\"type\":\"heartbeat\",\"id\":\"h\"\x7d\n\x7b\"type\"".toList ∧
      ReadsAs s.stream (packetsWritten s.written) := by
  obtain ⟨s, hrun⟩ : ∃ s, run (Serial.step Send.frame) (Serial.init demoWriters) demoActions =
      some s := ⟨_, rfl⟩
  refine ⟨s, hrun, ?_, ?_, (writers_never_tear demoWriters demoActions s hrun).1⟩
  · cases hrun
    rfl
  · cases hrun
    decide

end Centralisd
