import Centralisd.Core.Packet
import Centralisd.Lib.JsonCompact

/-!
# Centralisd — packets on the wire

`src/core/protocol/packet.go` and `line.go` below the level of `Packet`:
the payload is the text of the raw message, and a connection carries a
stream of characters. (The line break is one byte in UTF-8 and occurs in no
other character's encoding, so cutting the bytes at it is cutting the
characters.) A packet is one line, written either by `WritePacket` or, in the
orchestrator, by `WriteLine` on `mustJSON`.

`encoding/json` is that of `JsonText`: an embedded raw message is stripped of
white space and escaped, a string is quoted, and reading is `parseFields`.
Its limit on nesting is not modelled.

Main result: what has been written is read back packet for packet, then the
end of the stream (`framing_round_trip`). `toPacket` is the same packet
with its payload as a value, which is what the sessions exchange; in these
terms the stream is a queue of packets (`readPackets_toPacket`).
-/

namespace Centralisd

open JsonText

/-! ## JSON texts -/

namespace Json

/-- The number that decimal digits denote. -/
def digits (cs : List Char) : Nat := cs.foldl (fun n c => n * 10 + (c.toNat - 48)) 0

def signed : List Char → Int
  | '-' :: cs => -(digits cs : Int)
  | '+' :: cs => digits cs
  | cs => digits cs

def takeSign : List Char → Int × List Char
  | '-' :: cs => (-1, cs)
  | cs => (1, cs)

def takeFraction : List Char → List Char × List Char
  | '.' :: cs => (cs.takeWhile isDigit, cs.dropWhile isDigit)
  | cs => ([], cs)

/-- The number with these digits before and after the point and this
exponent, shifted by one place at least. -/
def scaled (sign : Int) (whole frac exp : List Char) : Json :=
  let shift : Int := frac.length - signed exp.tail
  .num (sign * digits (whole ++ frac ++ List.replicate (1 - shift).toNat '0')) (max 1 shift).toNat

/-- The number of a literal. What has a point or an exponent is no integer,
whatever its value. -/
def ofLiteral (lit : List Char) : Json :=
  let (sign, cs) := takeSign lit
  let whole := cs.takeWhile isDigit
  let rest := cs.dropWhile isDigit
  if lit = ['-', '0'] then .minusZero
  else if rest = [] then .num (sign * digits whole) 0
  else scaled sign whole (takeFraction rest).1 (takeFraction rest).2

def interp : Interp Json where
  null := .null
  bool := .bool
  num := ofLiteral
  str cs := .str (String.ofList cs)
  arr := .arr
  obj fields := .obj (fields.map fun f => (String.ofList f.1, f.2))

end Json

open Json

/-- A packet with the text of its payload; empty when there is none. -/
structure WirePacket where
  type : String := ""
  id : String := ""
  replyTo : String := ""
  error : String := ""
  payload : List Char := []

namespace WirePacket

/-- A string field. -/
def field (key value : String) : List Char × List Char :=
  (key.toList, '"' :: literal (quote value.toList))

/-- A string field with `omitempty`. -/
def omitField (key value : String) : List (List Char × List Char) :=
  if value = "" then [] else [field key value]

/-- The raw field with `omitempty`. Embedding a text that is no JSON fails. -/
def payloadField (raw : List Char) : Except String (List (List Char × List Char)) :=
  if raw = [] then .ok []
  else match parse interp raw with
    | none => .error "json"
    | some _ => .ok [("payload".toList, strip .between raw)]

/-- `json.Marshal` of a packet. -/
def marshal (p : WirePacket) : Except String String := do
  let payload ← payloadField p.payload
  return String.ofList (encodeMembers '{' (field "type" p.type :: (omitField "id" p.id ++
    omitField "reply_to" p.replyTo ++ omitField "error" p.error ++ payload)))

/-- The raw field takes the source text. -/
def set (key : String) (raw : List Char) (v : Json) (p : WirePacket) : Option WirePacket :=
  match key with
  | "TYPE" => (asString p.type v).map fun s => { p with type := s }
  | "ID" => (asString p.id v).map fun s => { p with id := s }
  | "REPLY_TO" => (asString p.replyTo v).map fun s => { p with replyTo := s }
  | "ERROR" => (asString p.error v).map fun s => { p with error := s }
  | "PAYLOAD" => some { p with payload := raw }
  | _ => some p

def setField (p : WirePacket) (m : Member Json) : Option WirePacket :=
  set (foldName (String.ofList m.name)) m.raw m.value p

/-- `json.Unmarshal` into the zero packet. -/
def unmarshal (line : String) : Option WirePacket :=
  match parseFields interp line.toList with
  | some fields => fields.foldlM setField {}
  | none => match parse interp line.toList with
    | some .null => some {}
    | _ => none

end WirePacket

/-! ## Writers and the reader -/

/-- `WritePacket`, on the stream written so far. -/
def writePacket (stream : List Char) (p : WirePacket) : Except String (List Char) :=
  if trimSpace p.type = "" then .error "packet type is empty"
  else do
    let b ← p.marshal
    return stream ++ (b.toList ++ ['\n'])

/-- `WriteLine`. -/
def writeLine (stream : List Char) (line : String) : Except String (List Char) :=
  if trimSpace line = "" then .error "empty line"
  else .ok (stream ++ ((trimSpace line).toList ++ ['\n']))

/-- `mustJSON`, which drops the error of `json.Marshal`. -/
def mustJSON (p : WirePacket) : String :=
  match p.marshal with
  | .ok b => b
  | .error _ => ""

/-- The two ways a packet is written. -/
inductive Writer where
  | writePacket
  | writeLine
  deriving DecidableEq

def Writer.write (w : Writer) (stream : List Char) (p : WirePacket) :
    Except String (List Char) :=
  match w with
  | .writePacket => Centralisd.writePacket stream p
  | .writeLine => Centralisd.writeLine stream (mustJSON p)

/-- Packets written in order, each by its own writer. -/
def writeAll : List Char → List (Writer × WirePacket) → Except String (List Char)
  | stream, [] => .ok stream
  | stream, (w, p) :: ps => do
    let stream ← w.write stream p
    writeAll stream ps

/-- `Reader.ReadString('\n')`: the line with its end, and what is left. -/
def readString (stream : List Char) : Option (List Char × List Char) :=
  match stream.dropWhile (· != '\n') with
  | [] => none
  | c :: rest => some (stream.takeWhile (· != '\n') ++ [c], rest)

/-- What `ReadPacket` makes of a line. -/
def decodeLine (line : String) : Except String WirePacket :=
  if trimSpace line = "" then .error "empty packet line"
  else match WirePacket.unmarshal (trimSpace line) with
    | none => .error "json"
    | some p => if trimSpace p.type = "" then .error "packet type missing" else .ok p

/-- `ReadPacket`. A stream without a further line end is used up. -/
def readPacket (stream : List Char) : Except String WirePacket × List Char :=
  match readString stream with
  | none => (.error "EOF", [])
  | some (line, rest) => (decodeLine (String.ofList line), rest)

/-- The results of successive calls. -/
def readPackets : Nat → List Char → List (Except String WirePacket)
  | 0, _ => []
  | n + 1, stream => (readPacket stream).1 :: readPackets n (readPacket stream).2

/-! ## What is sent and what arrives -/

/-- A packet both writers take: its type is not blank and its payload is
empty or a JSON text. -/
structure WirePacket.Sendable (p : WirePacket) : Prop where
  type : trimSpace p.type ≠ ""
  payload : p.payload = [] ∨ ∃ d : Document, d.text = p.payload

/-- Both absent, or texts of one value. -/
def SamePayload (raw raw' : List Char) : Prop :=
  (raw = [] ∧ raw' = []) ∨ ∃ v, Denotes interp raw v ∧ Denotes interp raw' v

/-- The packets agree in all but how the payload is written. -/
structure SamePacket (p q : WirePacket) : Prop where
  type : q.type = p.type
  id : q.id = p.id
  replyTo : q.replyTo = p.replyTo
  error : q.error = p.error
  payload : SamePayload p.payload q.payload

/-- The packet with its payload as a value. -/
def WirePacket.toPacket (p : WirePacket) : Packet where
  type := p.type
  id := p.id
  replyTo := p.replyTo
  error := p.error
  payload := if p.payload = [] then none else parse interp p.payload

theorem SamePacket.toPacket_eq {p q : WirePacket} (h : SamePacket p q) :
    q.toPacket = p.toPacket := by
  have hpayload : (if q.payload = [] then none else parse interp q.payload) =
      if p.payload = [] then none else parse interp p.payload := by
    rcases h.payload with ⟨hp, hq⟩ | ⟨v, hp, hq⟩
    · rw [if_pos hp, if_pos hq]
    · rw [if_neg hp.ne_nil, if_neg hq.ne_nil, hp.parse_eq, hq.parse_eq]
  simp only [WirePacket.toPacket, h.type, h.id, h.replyTo, h.error, hpayload]

theorem map_toPacket_eq {ps qs : List WirePacket} (h : List.Forall₂ SamePacket ps qs) :
    qs.map WirePacket.toPacket = ps.map WirePacket.toPacket := by
  induction h with
  | nil => rfl
  | cons hpq _ ih => rw [List.map_cons, List.map_cons, hpq.toPacket_eq, ih]

/-! ## One packet -/

/-- The members `json.Marshal` writes for a string field, as trees. -/
def WirePacket.omitTree (key value : String) : List (List Char × Syn .value) :=
  if value = "" then [] else [(key.toList, .str (quote value.toList))]

theorem WirePacket.omitField_eq (key value : String) :
    omitField key value = (omitTree key value).map fun m => (m.1, m.2.text) := by
  unfold omitField omitTree
  split <;> rfl

/-- The members of a packet whose payload members are the given ones. -/
def WirePacket.trees (p : WirePacket) (payload : List (List Char × Syn .value)) :
    List (List Char × Syn .value) :=
  omitTree "id" p.id ++ omitTree "reply_to" p.replyTo ++ omitTree "error" p.error ++ payload

/-- The line a packet is written as. -/
def WirePacket.line (p : WirePacket) (payload : List (List Char × Syn .value)) : List Char :=
  encodeMembers '{' ((("type".toList, .str (quote p.type.toList)) :: p.trees payload).map
    fun m => (m.1, m.2.text))

theorem WirePacket.marshal_eq {p : WirePacket} {payload : List (List Char × Syn .value)}
    (h : payloadField p.payload = .ok (payload.map fun m => (m.1, m.2.text))) :
    p.marshal = .ok (String.ofList (p.line payload)) := by
  simp only [marshal, h, omitField_eq, line, trees, List.map_cons, List.map_append]
  rfl

/-- The members that carry a payload: none, or its compact tree. -/
inductive PayloadTrees : List Char → List (List Char × Syn .value) → Prop where
  | absent : PayloadTrees [] []
  | present (d : Document) : PayloadTrees d.text [("payload".toList, d.value.compact)]

theorem PayloadTrees.payloadField_eq {raw : List Char} {payload : List (List Char × Syn .value)}
    (h : PayloadTrees raw payload) :
    WirePacket.payloadField raw = .ok (payload.map fun m => (m.1, m.2.text)) := by
  cases h with
  | absent => rfl
  | present d =>
    have hdenotes : Denotes interp d.text (d.value.sem interp) := ⟨d, rfl, rfl⟩
    rw [WirePacket.payloadField, if_neg hdenotes.ne_nil, hdenotes.parse_eq, strip_document]
    rfl

theorem PayloadTrees.oneLine {raw : List Char} {payload : List (List Char × Syn .value)}
    (h : PayloadTrees raw payload) : ∀ m ∈ payload, OneLine m.2.text := by
  cases h with
  | absent => exact nofun
  | present d =>
    intro m hm
    obtain rfl := List.mem_singleton.mp hm
    exact d.value.oneLine_compact

theorem WirePacket.line_oneLine {p : WirePacket} {payload : List (List Char × Syn .value)}
    (h : PayloadTrees p.payload payload) : OneLine (p.line payload) := by
  have hstr : ∀ s : String, OneLine (Syn.str (quote s.toList)).text := fun s =>
    oneLine_cons (by decide) (literal_oneLine _)
  have homit : ∀ key value, ∀ m ∈ omitTree key value, OneLine m.2.text := by
    intro key value m hm
    unfold omitTree at hm
    split at hm
    · cases hm
    · obtain rfl := List.mem_singleton.mp hm
      exact hstr value
  refine encodeMembers_oneLine (by decide) ?_
  rw [List.forall_mem_map, List.forall_mem_cons]
  refine ⟨hstr p.type, ?_⟩
  simp only [trees, List.forall_mem_append]
  exact ⟨⟨⟨homit _ _, homit _ _⟩, homit _ _⟩, h.oneLine⟩

/-- Trimming takes nothing off a written object, and the line end off its
line. -/
theorem trimSpace_encodeMembers (ms : List (List Char × List Char)) :
    trimSpace (String.ofList (encodeMembers '{' ms)) = String.ofList (encodeMembers '{' ms) ∧
      trimSpace (String.ofList (encodeMembers '{' ms ++ ['\n'])) =
        String.ofList (encodeMembers '{' ms) := by
  obtain ⟨cs, hlast⟩ := encodeMembers_getLast '{' ms
  have hdrop : ∀ w, (encodeMembers '{' ms ++ w).dropWhile isSpace = encodeMembers '{' ms ++ w := by
    intro w
    cases ms with
    | nil => exact List.dropWhile_cons_of_neg (by decide)
    | cons m ms => exact List.dropWhile_cons_of_neg (by decide)
  have hrdrop : (encodeMembers '{' ms).rdropWhile isSpace = encodeMembers '{' ms := by
    rw [hlast, List.rdropWhile_concat_neg _ _ _ (by decide)]
  constructor
  · have hnil := hdrop []
    rw [List.append_nil] at hnil
    rw [trimSpace, String.toList_ofList, hnil, hrdrop]
  · rw [trimSpace, String.toList_ofList, hdrop, List.rdropWhile_concat_pos _ _ _ (by decide),
      hrdrop]

theorem WirePacket.trimSpace_line (p : WirePacket) (payload : List (List Char × Syn .value)) :
    trimSpace (String.ofList (p.line payload)) = String.ofList (p.line payload) :=
  (trimSpace_encodeMembers _).1

theorem WirePacket.trimSpace_line_end (p : WirePacket)
    (payload : List (List Char × Syn .value)) :
    trimSpace (String.ofList (p.line payload ++ ['\n'])) = String.ofList (p.line payload) :=
  (trimSpace_encodeMembers _).2

theorem WirePacket.line_ne_empty (p : WirePacket) (payload : List (List Char × Syn .value)) :
    String.ofList (p.line payload) ≠ "" := by
  intro h
  have htoList := congrArg String.toList h
  rw [String.toList_ofList] at htoList
  exact List.cons_ne_nil _ _ htoList

/-- A member as the parser returns it. -/
def readField (m : List Char × Syn .value) : Member Json := ⟨m.1, m.2.text, m.2.sem interp⟩

theorem readField_str (key value : String) :
    readField (key.toList, .str (quote value.toList)) =
      ⟨key.toList, '"' :: literal (quote value.toList), .str value⟩ := by
  have hvalue : (Syn.str (quote value.toList)).sem interp = Json.str value := by
    show Json.str (String.ofList (decode (quote value.toList))) = _
    rw [decode_quote, String.ofList_toList]
  rw [readField, hvalue]
  rfl

theorem WirePacket.setField_key (p : WirePacket) (key : String) (raw : List Char) (v : Json) :
    p.setField ⟨key.toList, raw, v⟩ = set (foldName key) raw v p := by
  rw [setField, String.ofList_toList]

/-- A field that is omitted when empty is set all the same, where the packet
it is read into has it empty. -/
theorem WirePacket.foldlM_omitTree (key : String) (acc : WirePacket) (put : String → WirePacket)
    (hset : ∀ raw value, set (foldName key) raw (.str value) acc = some (put value))
    (hput : put "" = acc) (value : String) :
    ((omitTree key value).map readField).foldlM setField acc = some (put value) := by
  unfold omitTree
  split
  · rename_i hempty
    rw [hempty, hput]
    rfl
  · rw [List.map_singleton, readField_str, List.foldlM_cons, setField_key, hset]
    rfl

/-- What the reader makes of the members of a packet. -/
theorem WirePacket.foldlM_trees (p : WirePacket) (payload : List (List Char × Syn .value)) :
    ((("type".toList, Syn.str (quote p.type.toList)) :: p.trees payload).map readField).foldlM
        setField {} =
      (payload.map readField).foldlM setField { p with payload := [] } := by
  have htype : setField {} (readField ("type".toList, .str (quote p.type.toList))) =
      some { type := p.type } := by
    rw [readField_str, setField_key]
    rfl
  have hid := foldlM_omitTree "id" { type := p.type }
    (fun s => { type := p.type, id := s }) (fun _ _ => rfl) rfl p.id
  have hreplyTo := foldlM_omitTree "reply_to" { type := p.type, id := p.id }
    (fun s => { type := p.type, id := p.id, replyTo := s }) (fun _ _ => rfl) rfl p.replyTo
  have herror := foldlM_omitTree "error" { type := p.type, id := p.id, replyTo := p.replyTo }
    (fun s => { p with error := s, payload := [] }) (fun _ _ => rfl) rfl p.error
  rw [List.map_cons, List.foldlM_cons, htype, Option.bind_eq_bind, Option.bind_some, trees]
  simp only [List.map_append, List.foldlM_append, hid, hreplyTo, herror, Option.bind_eq_bind,
    Option.bind_some]

theorem PayloadTrees.foldlM_set {p : WirePacket} {payload : List (List Char × Syn .value)}
    (h : PayloadTrees p.payload payload) :
    ∃ raw, (payload.map readField).foldlM WirePacket.setField { p with payload := [] } =
        some { p with payload := raw } ∧ SamePayload p.payload raw := by
  generalize hraw : p.payload = raw at h
  cases h with
  | absent => exact ⟨[], rfl, .inl ⟨rfl, rfl⟩⟩
  | present d =>
    have hdenotes : Denotes interp d.text (d.value.sem interp) := ⟨d, rfl, rfl⟩
    refine ⟨d.value.compact.text, ?_, .inr ⟨_, hdenotes, strip_document d ▸ hdenotes.strip⟩⟩
    have hset : WirePacket.setField { p with payload := [] }
        (readField ("payload".toList, d.value.compact)) =
          some { p with payload := d.value.compact.text } :=
      WirePacket.setField_key _ _ _ _
    rw [List.map_singleton, List.foldlM_cons, hset]
    rfl

theorem WirePacket.unmarshal_line {p : WirePacket} {payload : List (List Char × Syn .value)}
    (h : PayloadTrees p.payload payload) :
    ∃ q, unmarshal (String.ofList (p.line payload)) = some q ∧ SamePacket p q := by
  obtain ⟨raw, hraw, hsame⟩ := h.foldlM_set
  refine ⟨{ p with payload := raw }, ?_, ⟨rfl, rfl, rfl, rfl, hsame⟩⟩
  rw [unmarshal, String.toList_ofList, line, parseFields_encodeMembers]
  exact (foldlM_trees p payload).trans hraw

/-- The line of a packet is read as that packet. -/
theorem decodeLine_line {p : WirePacket} {payload : List (List Char × Syn .value)}
    (htype : trimSpace p.type ≠ "") (h : PayloadTrees p.payload payload) :
    ∃ q, decodeLine (String.ofList (p.line payload ++ ['\n'])) = .ok q ∧ SamePacket p q := by
  obtain ⟨q, hq, hsame⟩ := WirePacket.unmarshal_line h
  refine ⟨q, ?_, hsame⟩
  rw [decodeLine, p.trimSpace_line_end, if_neg (p.line_ne_empty payload), hq]
  exact if_neg (hsame.type ▸ htype)

/-- Both writers put the same line on the stream. -/
theorem Writer.write_line (w : Writer) {p : WirePacket}
    {payload : List (List Char × Syn .value)} (htype : trimSpace p.type ≠ "")
    (h : PayloadTrees p.payload payload) (stream : List Char) :
    w.write stream p = .ok (stream ++ (p.line payload ++ ['\n'])) := by
  have hmarshal := WirePacket.marshal_eq h.payloadField_eq
  cases w with
  | writePacket =>
    show Centralisd.writePacket stream p = _
    rw [Centralisd.writePacket, if_neg htype, hmarshal]
    show Except.ok (stream ++ ((String.ofList (p.line payload)).toList ++ ['\n'])) = _
    rw [String.toList_ofList]
  | writeLine =>
    show Centralisd.writeLine stream (mustJSON p) = _
    rw [mustJSON, hmarshal]
    show Centralisd.writeLine stream (String.ofList (p.line payload)) = _
    rw [Centralisd.writeLine, p.trimSpace_line, if_neg (p.line_ne_empty payload),
      String.toList_ofList]

theorem readString_line {line : List Char} (h : '\n' ∉ line) (rest : List Char) :
    readString (line ++ '\n' :: rest) = some (line ++ ['\n'], rest) := by
  have hne : ∀ c ∈ line, (c != '\n') = true := by
    intro c hc
    rw [bne_iff_ne]
    rintro rfl
    exact h hc
  rw [readString, List.dropWhile_append_of_pos hne, List.takeWhile_append_of_pos hne,
    List.dropWhile_cons_of_neg (by decide), List.takeWhile_cons_of_neg (by decide),
    List.append_nil]

/-! ## Streams -/

theorem WirePacket.Sendable.trees {p : WirePacket} (h : p.Sendable) :
    ∃ payload, PayloadTrees p.payload payload := by
  rcases h.payload with hraw | ⟨d, hraw⟩
  · exact ⟨[], hraw ▸ .absent⟩
  · exact ⟨_, hraw ▸ PayloadTrees.present d⟩

/-- A packet is one line: writing appends it whatever the writer, and reading
takes exactly it off the stream. -/
theorem WirePacket.Sendable.frame {p : WirePacket} (h : p.Sendable) :
    ∃ frame q, SamePacket p q ∧
      (∀ (w : Writer) stream, w.write stream p = .ok (stream ++ frame)) ∧
      ∀ rest, readPacket (frame ++ rest) = (.ok q, rest) := by
  obtain ⟨payload, htrees⟩ := h.trees
  obtain ⟨q, hq, hsame⟩ := decodeLine_line h.type htrees
  refine ⟨p.line payload ++ ['\n'], q, hsame, fun w => w.write_line h.type htrees, ?_⟩
  intro rest
  have hbreak : '\n' ∉ p.line payload := (WirePacket.line_oneLine htrees).not_mem (by decide)
  rw [List.append_assoc, List.singleton_append, readPacket, readString_line hbreak]
  dsimp only
  rw [hq]

theorem readPackets_nil (n : Nat) : readPackets n [] = List.replicate n (.error "EOF") := by
  induction n with
  | zero => rfl
  | succ n ih => exact congrArg (Except.error "EOF" :: ·) ih

/-- The stream of a list of packets extends what was written before, and
reads back in order. -/
theorem writeAll_readPackets (ps : List (Writer × WirePacket)) (h : ∀ w ∈ ps, w.2.Sendable) :
    ∃ frames qs, List.Forall₂ SamePacket (ps.map Prod.snd) qs ∧
      (∀ stream, writeAll stream ps = .ok (stream ++ frames)) ∧
      ∀ n, readPackets (ps.length + n) frames =
        qs.map .ok ++ List.replicate n (.error "EOF") := by
  induction ps with
  | nil =>
    refine ⟨[], [], .nil, ?_, ?_⟩
    · intro stream
      rw [writeAll, List.append_nil]
    · intro n
      rw [List.length_nil, Nat.zero_add, readPackets_nil]
      rfl
  | cons wp ps ih =>
    obtain ⟨w, p⟩ := wp
    rw [List.forall_mem_cons] at h
    obtain ⟨frame, q, hsame, hwrite, hread⟩ := h.1.frame
    obtain ⟨frames, qs, hsames, hwrites, hreads⟩ := ih h.2
    refine ⟨frame ++ frames, q :: qs, .cons hsame hsames, ?_, ?_⟩
    · intro stream
      rw [writeAll, hwrite w stream, ← List.append_assoc]
      exact hwrites (stream ++ frame)
    · intro n
      rw [List.length_cons, Nat.add_right_comm, readPackets, hread frames, hreads]
      rfl

/-- On payloads as values the stream is a queue of packets: what is read is
what was written. -/
theorem readPackets_toPacket (ps : List (Writer × WirePacket)) (h : ∀ w ∈ ps, w.2.Sendable) :
    ∃ stream, writeAll [] ps = .ok stream ∧
      (readPackets ps.length stream).map (Except.map WirePacket.toPacket) =
        ps.map fun w => .ok w.2.toPacket := by
  obtain ⟨frames, qs, hsame, hwrite, hread⟩ := writeAll_readPackets ps h
  refine ⟨frames, hwrite [], ?_⟩
  have hpackets := map_toPacket_eq hsame
  have hcalls : readPackets ps.length frames = qs.map .ok := by
    have h₀ := hread 0
    rwa [Nat.add_zero, List.replicate_zero, List.append_nil] at h₀
  calc (readPackets ps.length frames).map (Except.map WirePacket.toPacket)
      = (qs.map WirePacket.toPacket).map .ok := by rw [hcalls, List.map_map, List.map_map]; rfl
    _ = ps.map fun w => .ok w.2.toPacket := by rw [hpackets, List.map_map, List.map_map]; rfl

/--
**Framing round trip.** Whatever packets are written, in whatever mix of the
two writers, no write fails, and reading gives the same packets in the same
order and after them the end of the stream.
-/
theorem framing_round_trip (ps : List (Writer × WirePacket)) (h : ∀ w ∈ ps, w.2.Sendable) :
    ∃ stream qs, writeAll [] ps = .ok stream ∧
      List.Forall₂ SamePacket (ps.map Prod.snd) qs ∧
      ∀ n, readPackets (ps.length + n) stream =
        qs.map .ok ++ List.replicate n (.error "EOF") := by
  obtain ⟨frames, qs, hsame, hwrite, hread⟩ := writeAll_readPackets ps h
  exact ⟨frames, qs, hwrite [], hsame, hread⟩

/-- A payload with line breaks between its tokens and an escaped one in a
string. -/
def demoDocument : Document where
  before := .none
  value := .obj (.lastMember
    ⟨⟨['\n'], by decide⟩, [.plain 'a' (by decide)], .none, ⟨[' '], by decide⟩⟩
    (.str [.plain 'x' (by decide), .esc .n, .plain 'y' (by decide)]) ⟨['\n'], by decide⟩)
  after := .none

def demoPackets : List (Writer × WirePacket) :=
  [(.writePacket, { type := packetHeartbeat, id := "r1" }),
    (.writeLine, { type := packetNodeCommand, payload := demoDocument.text }),
    (.writePacket, { type := packetError, error := "a\nb" })]

theorem framing_round_trip_demo :
    demoDocument.text = "\x7b\n\"a\": \"x\\ny\"\n\x7d".toList ∧
    ∃ stream qs, writeAll [] demoPackets = .ok stream ∧
      List.Forall₂ SamePacket (demoPackets.map Prod.snd) qs ∧
      ∀ n, readPackets (3 + n) stream = qs.map .ok ++ List.replicate n (.error "EOF") := by
  refine ⟨by decide, framing_round_trip demoPackets ?_⟩
  intro w hw
  simp only [demoPackets, List.mem_cons, List.not_mem_nil, or_false] at hw
  rcases hw with rfl | rfl | rfl
  · exact ⟨by decide, .inl rfl⟩
  · exact ⟨by decide, .inr ⟨demoDocument, rfl⟩⟩
  · exact ⟨by decide, .inl rfl⟩

end Centralisd
