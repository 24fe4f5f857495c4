import Centralisd.Core.Framing
import Centralisd.Core.Params
import Centralisd.Lib.JsonWrite

/-!
# Centralisd — commands as texts

The two records of `src/core/protocol/types.go` that carry a command on its
way, `OrchestratorCommand` and `NodeCommand`, with their raw fields as the
texts they are in the program. Marshalling checks the text of a raw field and
strips it; unmarshalling takes the source text of the member, whatever it
is.

Elsewhere a raw message is the value it denotes. The two views agree:
`unmarshalText_rel` says this of reading any document into any record, and
`marshal_denotes` of the texts that are written.
-/

namespace Centralisd

open JsonText

/-! ## Values -/

namespace Json

mutual

/-- The tree of the text that `json.Marshal` writes for a value. -/
def syn : Json → Syn .value
  | .null => .null
  | .bool b => .bool b
  | .num m e => .num (.ofInt m e)
  | .minusZero => .num ⟨['-', '0'], by decide⟩
  | .str s => .str (quote s.toList)
  | .arr xs => ofArray (synElems xs)
  | .obj fields => ofFields (synFields fields)

def synElems : List Json → List (Syn .value)
  | [] => []
  | x :: xs => x.syn :: synElems xs

def synFields : List (String × Json) → List (List Char × Syn .value)
  | [] => []
  | (key, v) :: fields => (key.toList, v.syn) :: synFields fields

end

/-- `json.Marshal`. -/
def text (v : Json) : List Char := v.syn.text

theorem digits_toDigits (n : Nat) : digits (Nat.toDigits 10 n) = n := by
  have h := Nat.ofDigitChars_ten_toDigits (n := n)
  rw [Nat.ofDigitChars_eq_foldl] at h
  simp only [Nat.mul_comm] at h
  exact h

theorem takeFraction_exponent (e : Nat) : takeFraction (exponent e) = ([], exponent e) := by
  unfold exponent
  split <;> rfl

theorem signed_exponent (e : Nat) : signed (exponent e).tail = -(e : Int) := by
  unfold exponent
  split
  · next he =>
    rw [he]
    rfl
  · show -(digits (Nat.toDigits 10 e) : Int) = _
    rw [digits_toDigits]

theorem takeSign_numeral (m : Int) (e : Nat) :
    takeSign (numeral m e) = (if m < 0 then -1 else 1, Nat.toDigits 10 m.natAbs ++ exponent e) := by
  unfold numeral
  split
  · rfl
  · obtain ⟨c, cs, hcs, -⟩ := toDigits_head m.natAbs
    have hc : isDigit c = true := isDigit_toDigits (hcs ▸ List.mem_cons_self)
    rw [List.nil_append, hcs, List.cons_append]
    unfold takeSign
    split
    · next heq =>
      rw [(List.cons.inj heq).1] at hc
      exact absurd hc (by decide)
    · rfl

/-- A literal is a number. -/
theorem ofLiteral_cases (lit : List Char) :
    ofLiteral lit = .minusZero ∨ ∃ m e, ofLiteral lit = .num m e := by
  unfold ofLiteral
  dsimp only
  split
  · exact .inl rfl
  · split
    · exact .inr ⟨_, _, rfl⟩
    · exact .inr ⟨_, _, rfl⟩

theorem numeral_ne_minusZero (m : Int) (e : Nat) : numeral m e ≠ ['-', '0'] := by
  intro h
  have hsign := takeSign_numeral m e
  rw [h] at hsign
  obtain ⟨hm, hdigits⟩ := Prod.mk.inj hsign
  have hneg : m < 0 := by
    by_contra hm'
    rw [if_neg hm'] at hm
    exact absurd hm (by decide)
  obtain ⟨c, cs, hcs, -⟩ := toDigits_head m.natAbs
  have hzero : Nat.toDigits 10 m.natAbs = ['0'] := by
    rw [hcs, List.cons_append] at hdigits
    obtain ⟨rfl, hnil⟩ := List.cons.inj hdigits
    rw [hcs, (List.append_eq_nil_iff.mp hnil.symm).1]
  have hvalue := digits_toDigits m.natAbs
  rw [hzero] at hvalue
  have hnat : m.natAbs = 0 := hvalue.symm
  omega

/-- A written number is read as it was. -/
theorem ofLiteral_numeral (m : Int) (e : Nat) : ofLiteral (numeral m e) = .num m e := by
  have hdigits : ∀ d ∈ Nat.toDigits 10 m.natAbs, isDigit d = true := fun d hd => isDigit_toDigits hd
  have hwhole : (Nat.toDigits 10 m.natAbs ++ exponent e).takeWhile isDigit =
      Nat.toDigits 10 m.natAbs := by
    have hexp : (exponent e).takeWhile isDigit = [] := by
      unfold exponent
      split <;> rfl
    rw [List.takeWhile_append_of_pos hdigits, hexp, List.append_nil]
  have hrest : (Nat.toDigits 10 m.natAbs ++ exponent e).dropWhile isDigit = exponent e := by
    rw [List.dropWhile_append_of_pos hdigits, dropWhile_exponent]
  have hsign : (if m < 0 then (-1 : Int) else 1) * (m.natAbs : Int) = m := by
    split <;> omega
  unfold ofLiteral
  rw [takeSign_numeral]
  dsimp only
  rw [if_neg (numeral_ne_minusZero m e), hwhole, hrest, digits_toDigits, hsign]
  by_cases he : e = 0
  · have hnil : exponent e = [] := if_pos he
    rw [if_pos hnil, he]
  · have hne : exponent e ≠ [] := by
      rw [exponent, if_neg he]
      exact List.cons_ne_nil _ _
    -- one place at least: the exponent itself
    have hshift : ((([] : List Char).length : Int) - signed (exponent e).tail) = e := by
      rw [signed_exponent, List.length_nil]
      omega
    have hpad : (1 - (e : Int)).toNat = 0 := by omega
    have hmax : (max 1 (e : Int)).toNat = e := by omega
    rw [if_neg hne, takeFraction_exponent]
    unfold scaled
    rw [hshift]
    dsimp only
    rw [hpad, hmax, List.replicate_zero, List.append_nil, List.append_nil, digits_toDigits, hsign]

/-- Integer fields go by the literal, not by its value. -/
example : asUint 0 (ofLiteral "1e3".toList) = none ∧ asUint 0 (ofLiteral "-0".toList) = none ∧
    asIntPtr (ofLiteral "-0".toList) = some (some 0) := by
  decide

mutual

theorem syn_sem : (v : Json) → v.syn.sem interp = v
  | .null => rfl
  | .bool _ => rfl
  | .num m e => ofLiteral_numeral m e
  | .minusZero => rfl
  | .str s => by
    show Json.str (String.ofList (decode (quote s.toList))) = _
    rw [decode_quote, String.ofList_toList]
  | .arr xs => by
    rw [syn, sem_ofArray]
    exact congrArg Json.arr (synElems_sem xs)
  | .obj fields => by
    rw [syn, sem_ofFields]
    exact congrArg Json.obj (synFields_sem fields)

theorem synElems_sem : (xs : List Json) → (synElems xs).map (fun v => v.sem interp) = xs
  | [] => rfl
  | x :: xs => congrArg₂ List.cons (syn_sem x) (synElems_sem xs)

theorem synFields_sem : (fields : List (String × Json)) →
    ((synFields fields).map fun m => (m.1, m.2.sem interp)).map
      (fun f => (String.ofList f.1, f.2)) = fields
  | [] => rfl
  | (key, v) :: fields => by
    have hkey : (String.ofList key.toList, v.syn.sem interp) = (key, v) :=
      Prod.ext String.ofList_toList (syn_sem v)
    exact congrArg₂ List.cons hkey (synFields_sem fields)

end

theorem denotes_text (v : Json) : Denotes interp v.text v := by
  have h := v.syn.denotes_text interp
  rwa [syn_sem] at h

end Json

open Json

/-! ## Raw fields -/

/-- The text denotes the raw message. -/
def DenotesRaw (raw : List Char) : RawMessage → Prop
  | none => raw = []
  | some v => Denotes interp raw v

/-- What `json.Marshal` writes for a raw field: `null` for nil, and a text
that is no JSON fails. -/
def embed (raw : List Char) : Except String (List Char) :=
  if raw = [] then .ok "null".toList
  else match parse interp raw with
    | none => .error "json"
    | some _ => .ok (strip .between raw)

theorem embed_denotes {raw : List Char} {v : Json} (h : Denotes interp raw v) :
    ∃ s : Syn .value, embed raw = .ok s.text ∧ s.sem interp = v := by
  obtain ⟨d, rfl, rfl⟩ := h
  have hdenotes : Denotes interp d.text (d.value.sem interp) := ⟨d, rfl, rfl⟩
  refine ⟨d.value.compact, ?_, sem_compact interp d.value⟩
  rw [embed, if_neg hdenotes.ne_nil, hdenotes.parse_eq, strip_document]

/-- `json.Unmarshal` into a record whose fields `set` assigns by folded name,
from the source text of the member and its value. -/
def unmarshalText {T : Type} (set : String → List Char → Json → T → Option T) (old : T)
    (text : List Char) : Option T :=
  match parseFields interp text with
  | some fields =>
    fields.foldlM (fun t m => set (foldName (String.ofList m.name)) m.raw m.value t) old
  | none => match parse interp text with
    | some .null => some old
    | _ => none

section
variable {T U : Type} {set : String → List Char → Json → T → Option T}
  {vset : String → Json → U → Option U} {R : T → U → Prop}

theorem foldlM_rel (hset : ∀ key raw v t u, Denotes interp raw v → R t u →
      Option.Rel R (set key raw v t) (vset key v u))
    {fields : List (Member Json)} (hfields : ∀ m ∈ fields, Denotes interp m.raw m.value)
    {t : T} {u : U} (h : R t u) :
    Option.Rel R
      (fields.foldlM (fun t m => set (foldName (String.ofList m.name)) m.raw m.value t) t)
      ((fields.map fun m => (String.ofList m.name, m.value)).foldlM
        (fun u f => vset (foldName f.1) f.2 u) u) := by
  induction fields generalizing t u with
  | nil => exact .some h
  | cons m fields ih =>
    rw [List.forall_mem_cons] at hfields
    have hm := hset (foldName (String.ofList m.name)) m.raw m.value t u hfields.1 h
    rw [List.foldlM_cons, List.map_cons, List.foldlM_cons]
    generalize set (foldName (String.ofList m.name)) m.raw m.value t = a at hm ⊢
    dsimp only
    generalize vset (foldName (String.ofList m.name)) m.value u = b at hm ⊢
    cases hm with
    | none => exact .none
    | some h' => exact ih hfields.2 h'

/-- Reading the text of a document into a record agrees with reading its
value, when each assignment does. -/
theorem unmarshalText_rel (hset : ∀ key raw v t u, Denotes interp raw v → R t u →
      Option.Rel R (set key raw v t) (vset key v u))
    {text : List Char} {v : Json} (hv : Denotes interp text v) {t : T} {u : U} (h : R t u) :
    Option.Rel R (unmarshalText set t text) (unmarshalStruct vset u v) := by
  have hparse := hv.parse_eq
  obtain ⟨d, rfl, rfl⟩ := hv
  unfold unmarshalText
  rw [parseFields_document, hparse]
  cases hfields : d.value.fields interp with
  | some fields =>
    have hrel := foldlM_rel hset (Syn.fields_denote hfields) h
    rw [Syn.sem_of_fields hfields]
    show Option.Rel R _ (((fields.map Member.pair).map _).foldlM _ u)
    rw [List.map_map]
    exact hrel
  | none =>
    -- no object: the value itself decides
    cases hvalue : d.value with
    | obj ms => exact absurd hfields (by simp [hvalue, Syn.fields])
    | emptyObj w => exact absurd hfields (by simp [hvalue, Syn.fields])
    | null => exact .some h
    | bool b => exact .none
    | num n =>
      have hsem : (Syn.num n).sem interp = ofLiteral n.lit := rfl
      rcases ofLiteral_cases n.lit with hnum | ⟨m, e, hnum⟩
      · rw [hsem, hnum]
        exact .none
      · rw [hsem, hnum]
        exact .none
    | str ps => exact .none
    | emptyArr w => exact .none
    | arr es => exact .none

end

/-! ## Written objects -/

theorem sem_quote (value : String) : (Syn.str (quote value.toList)).sem interp = .str value := by
  show Json.str (String.ofList (decode (quote value.toList))) = _
  rw [decode_quote, String.ofList_toList]

theorem denotes_encodeMembers (m : String × Syn .value) (ms : List (String × Syn .value)) :
    Denotes interp (encodeMembers '{' ((m :: ms).map fun m => (m.1.toList, m.2.text)))
      (.obj ((m :: ms).map fun m => (m.1, m.2.sem interp))) := by
  have htext := text_ofFields (m.1.toList, m.2) (ms.map fun m => (m.1.toList, m.2))
  have hsem := sem_ofFields interp ((m :: ms).map fun m => (m.1.toList, m.2))
  have hdenotes := (ofFields ((m :: ms).map fun m => (m.1.toList, m.2))).denotes_text interp
  rw [hsem] at hdenotes
  have hvalue : interp.obj (((m :: ms).map fun m => (m.1.toList, m.2)).map
      fun m => (m.1, m.2.sem interp)) = .obj ((m :: ms).map fun m => (m.1, m.2.sem interp)) := by
    show Json.obj _ = _
    simp only [List.map_map, Function.comp_def, String.ofList_toList]
  rw [hvalue] at hdenotes
  rw [List.map_cons, List.map_map] at htext
  rw [List.map_cons]
  exact htext ▸ hdenotes

/-! ## `NodeCommand` and `OrchestratorCommand` -/

/-- `NodeCommand`, with the text of its parameters. -/
structure NodeCommandText where
  action : String := ""
  params : List Char := []

def NodeCommandText.marshal (c : NodeCommandText) : Except String (List Char) :=
  if c.params = [] then .ok (encodeMembers '{' [WirePacket.field "action" c.action])
  else do
    let params ← embed c.params
    return encodeMembers '{' [WirePacket.field "action" c.action, ("params".toList, params)]

def NodeCommandText.set (key : String) (raw : List Char) (v : Json) (c : NodeCommandText) :
    Option NodeCommandText :=
  match key with
  | "ACTION" => (asString c.action v).map fun s => { c with action := s }
  | "PARAMS" => some { c with params := raw }
  | _ => some c

def NodeCommandText.unmarshal : List Char → Option NodeCommandText :=
  unmarshalText NodeCommandText.set {}

/-- `OrchestratorCommand`, with the text of its command. -/
structure OrchestratorCommandText where
  nodeID : String := ""
  command : List Char := []

def OrchestratorCommandText.marshal (c : OrchestratorCommandText) : Except String (List Char) := do
  let command ← embed c.command
  return encodeMembers '{' [WirePacket.field "node_id" c.nodeID, ("command".toList, command)]

def OrchestratorCommandText.set (key : String) (raw : List Char) (v : Json)
    (c : OrchestratorCommandText) : Option OrchestratorCommandText :=
  match key with
  | "NODE_ID" => (asString c.nodeID v).map fun s => { c with nodeID := s }
  | "COMMAND" => some { c with command := raw }
  | _ => some c

def OrchestratorCommandText.unmarshal : List Char → Option OrchestratorCommandText :=
  unmarshalText OrchestratorCommandText.set {}

/-- The record with its raw field as text is the record with the value. -/
structure NodeCommandText.Is (c : NodeCommandText) (cmd : NodeCommand) : Prop where
  action : c.action = cmd.action
  params : DenotesRaw c.params cmd.params

structure OrchestratorCommandText.Is (c : OrchestratorCommandText) (cmd : OrchestratorCommand) :
    Prop where
  nodeID : c.nodeID = cmd.nodeID
  command : DenotesRaw c.command cmd.command

theorem NodeCommandText.marshal_denotes (action : String) {raw : List Char} {v : Json}
    (h : Denotes interp raw v) :
    ∃ t, marshal ⟨action, raw⟩ = .ok t ∧
      Denotes interp t (NodeCommand.marshal ⟨action, some v⟩) := by
  obtain ⟨s, hembed, hs⟩ := embed_denotes h
  have hdenotes := denotes_encodeMembers ("action", .str (quote action.toList)) [("params", s)]
  simp only [List.map_cons, List.map_nil, sem_quote, hs] at hdenotes
  refine ⟨_, ?_, hdenotes⟩
  unfold marshal
  rw [if_neg h.ne_nil, hembed]
  rfl

theorem OrchestratorCommandText.marshal_denotes (nodeID : String) {raw : List Char} {v : Json}
    (h : Denotes interp raw v) :
    ∃ t, marshal ⟨nodeID, raw⟩ = .ok t ∧
      Denotes interp t (OrchestratorCommand.marshal ⟨nodeID, some v⟩) := by
  obtain ⟨s, hembed, hs⟩ := embed_denotes h
  have hdenotes := denotes_encodeMembers ("node_id", .str (quote nodeID.toList)) [("command", s)]
  simp only [List.map_cons, List.map_nil, sem_quote, hs] at hdenotes
  refine ⟨_, ?_, hdenotes⟩
  unfold marshal
  rw [hembed]
  rfl

/-- Assigning to a string field. -/
theorem asString_rel {T U : Type} {R : T → U → Prop} {old : String} (v : Json) {f : String → T}
    {g : String → U} (h : ∀ s, R (f s) (g s)) :
    Option.Rel R ((asString old v).map f) ((asString old v).map g) := by
  cases asString old v with
  | none => exact .none
  | some s => exact .some (h s)

theorem NodeCommandText.unmarshal_rel {text : List Char} {v : Json} (hv : Denotes interp text v) :
    Option.Rel Is (unmarshal text) (NodeCommand.unmarshal v) := by
  refine unmarshalText_rel ?_ hv ⟨rfl, rfl⟩
  intro key raw v c cmd hraw h
  by_cases haction : key = "ACTION"
  · subst haction
    show Option.Rel Is ((asString c.action v).map _) ((asString cmd.action v).map _)
    rw [h.action]
    exact asString_rel v fun s => ⟨rfl, h.params⟩
  by_cases hparams : key = "PARAMS"
  · subst hparams
    exact .some ⟨h.action, hraw⟩
  -- any other member is skipped on both sides
  have hc : set key raw v c = some c := by
    unfold set
    split
    · exact absurd rfl haction
    · exact absurd rfl hparams
    · rfl
  have hcmd : NodeCommand.set key v cmd = some cmd := by
    unfold NodeCommand.set
    split
    · exact absurd rfl haction
    · exact absurd rfl hparams
    · rfl
  rw [hc, hcmd]
  exact .some h

theorem OrchestratorCommandText.unmarshal_rel {text : List Char} {v : Json}
    (hv : Denotes interp text v) :
    Option.Rel Is (unmarshal text) (OrchestratorCommand.unmarshal v) := by
  refine unmarshalText_rel ?_ hv ⟨rfl, rfl⟩
  intro key raw v c cmd hraw h
  by_cases hnodeID : key = "NODE_ID"
  · subst hnodeID
    show Option.Rel Is ((asString c.nodeID v).map _) ((asString cmd.nodeID v).map _)
    rw [h.nodeID]
    exact asString_rel v fun s => ⟨rfl, h.command⟩
  by_cases hcommand : key = "COMMAND"
  · subst hcommand
    exact .some ⟨h.nodeID, hraw⟩
  have hc : set key raw v c = some c := by
    unfold set
    split
    · exact absurd rfl hnodeID
    · exact absurd rfl hcommand
    · rfl
  have hcmd : OrchestratorCommand.set key v cmd = some cmd := by
    unfold OrchestratorCommand.set
    split
    · exact absurd rfl hnodeID
    · exact absurd rfl hcommand
    · rfl
  rw [hc, hcmd]
  exact .some h

end Centralisd
