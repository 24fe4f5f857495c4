import Centralisd.Lib.JsonParse

/-!
# JSON as text — compact form and writing

* `strip` removes the white space between tokens and escapes the characters
  `<`, `>`, `&`, U+2028 and U+2029, character by character. `strip_text` says
  that this is `compact` on trees, which keeps the value (`Denotes.strip`)
  and leaves no line break (`Syn.oneLine_compact`).
* `quote` writes a string and `encodeMembers` an object; both read back
  (`decode_quote`, `parseFields_encodeMembers`).
-/

namespace JsonText

variable {ν : Type} {A : Interp ν}

-- ---------------------------------------------------------------------------
-- Compaction
-- ---------------------------------------------------------------------------

/-- The escape of a code unit. -/
def Piece.ofCode (n : Nat) : Piece :=
  .unicode (Hex.ofNat (n / 4096)) (Hex.ofNat (n / 256 % 16)) (Hex.ofNat (n / 16 % 16))
    (Hex.ofNat (n % 16))

/-- The characters that are escaped for the sake of what a document may be
embedded in. -/
def isHTML (c : Char) : Bool :=
  c == '<' || c == '>' || c == '&' || c == '\u2028' || c == '\u2029'

def escapeHTML (c : Char) : List Char := if isHTML c then (Piece.ofCode c.toNat).text else [c]

/-- Where in a document a character stands. -/
inductive Mode where
  | between
  | inString
  /-- after the backslash in a string -/
  | escaped

def Mode.next : Mode → Char → Mode
  | .between, c => if c = '"' then .inString else .between
  | .inString, c => if c = '"' then .between else if c = '\\' then .escaped else .inString
  | .escaped, _ => .inString

/-- Drops the white space between tokens and escapes the rest. -/
def strip : Mode → List Char → List Char
  | _, [] => []
  | .between, c :: cs =>
    if isBlank c then strip .between cs else escapeHTML c ++ strip (Mode.between.next c) cs
  | m, c :: cs => escapeHTML c ++ strip (m.next c) cs

theorem strip_between (c : Char) (cs : List Char) :
    strip .between (c :: cs) =
      if isBlank c then strip .between cs else escapeHTML c ++ strip (Mode.between.next c) cs := rfl

theorem strip_inString (c : Char) (cs : List Char) :
    strip .inString (c :: cs) = escapeHTML c ++ strip (Mode.inString.next c) cs := rfl

theorem strip_escaped (c : Char) (cs : List Char) :
    strip .escaped (c :: cs) = escapeHTML c ++ strip .inString cs := rfl

@[simp] theorem strip_space (w : Space) (cs : List Char) :
    strip .between (w.chars ++ cs) = strip .between cs := by
  obtain ⟨ws, hws⟩ := w
  induction ws with
  | nil => rfl
  | cons c ws ih =>
    rw [List.all_cons, Bool.and_eq_true] at hws
    show strip .between (c :: (ws ++ cs)) = _
    rw [strip_between, if_pos hws.1]
    exact ih hws.2

def Piece.compact : Piece → Piece
  | .plain c h => if isHTML c then .ofCode c.toNat else .plain c h
  | .esc e => .esc e
  | .unicode h₁ h₂ h₃ h₄ => .unicode h₁ h₂ h₃ h₄

def Key.compact (k : Key) : Key := ⟨.none, k.name.map Piece.compact, .none, .none⟩

/-- The tree of the stripped text. -/
def Syn.compact : {k : Kind} → Syn k → Syn k
  | _, .null => .null
  | _, .bool b => .bool b
  | _, .num n => .num n
  | _, .str ps => .str (ps.map Piece.compact)
  | _, .emptyArr _ => .emptyArr .none
  | _, .arr es => .arr es.compact
  | _, .emptyObj _ => .emptyObj .none
  | _, .obj ms => .obj ms.compact
  | _, .lastElem _ v _ => .lastElem .none v.compact .none
  | _, .elem _ v _ rest => .elem .none v.compact .none rest.compact
  | _, .lastMember k v _ => .lastMember k.compact v.compact .none
  | _, .member k v _ rest => .member k.compact v.compact .none rest.compact

theorem Hex.val_ofNat {n : Nat} (h : n < 16) : (Hex.ofNat n).val = n := by
  have hall : ∀ m : Fin 16, (Hex.ofNat m).val = m := by decide
  exact hall ⟨n, h⟩

/-- A character is not a surrogate. -/
theorem isSurrogate_toNat (c : Char) : isSurrogate c.toNat = false := by
  have h := c.valid
  simp only [UInt32.isValidChar, Nat.isValidChar] at h
  simp only [isSurrogate, decide_eq_false_iff_not]
  show ¬ (_ ≤ c.val.toNat ∧ c.val.toNat < _)
  omega

theorem decodePair_toNat (hi : Nat) (c : Char) : decodePair hi c.toNat = none := by
  have h := isSurrogate_toNat c
  simp only [isSurrogate, decide_eq_false_iff_not] at h
  rw [decodePair, if_neg (by omega)]

theorem codeUnit_ofCode {n : Nat} (h : n < 65536) :
    codeUnit (Hex.ofNat (n / 4096)) (Hex.ofNat (n / 256 % 16)) (Hex.ofNat (n / 16 % 16))
      (Hex.ofNat (n % 16)) = n := by
  rw [codeUnit, Hex.val_ofNat (by omega), Hex.val_ofNat (by omega), Hex.val_ofNat (by omega),
    Hex.val_ofNat (by omega)]
  omega

/-- An escaped code unit stands for the character it is the code of. -/
theorem decodeFrom_ofCode (hi : Option Nat) {c : Char} (h : c.toNat < 65536) (ps : List Piece) :
    decodeFrom hi (.ofCode c.toNat :: ps) = lone hi ++ c :: decodeFrom none ps := by
  have hpair : (hi.bind fun n => decodePair n c.toNat) = none := by
    cases hi with
    | none => rfl
    | some n => exact decodePair_toNat n c
  rw [Piece.ofCode, decodeFrom, codeUnit_ofCode h, hpair, isSurrogate_toNat]
  simp [Char.ofNat_toNat]

theorem isHTML_toNat {c : Char} (h : isHTML c = true) : c.toNat < 65536 := by
  simp only [isHTML, Bool.or_eq_true, beq_iff_eq] at h
  rcases h with (((rfl | rfl) | rfl) | rfl) | rfl <;> decide

theorem decodeFrom_compact (ps : List Piece) :
    ∀ hi, decodeFrom hi (ps.map Piece.compact) = decodeFrom hi ps := by
  induction ps with
  | nil => intro hi; rfl
  | cons p ps ih =>
    intro hi
    rw [List.map_cons]
    cases p with
    | plain c h =>
      rw [Piece.compact]
      split
      · rename_i hc
        rw [decodeFrom_ofCode hi (isHTML_toNat hc), ih none, decodeFrom]
      · rw [decodeFrom, decodeFrom, ih none]
    | esc e => rw [Piece.compact, decodeFrom, decodeFrom, ih none]
    | unicode h₁ h₂ h₃ h₄ =>
      rw [Piece.compact, decodeFrom, decodeFrom]
      simp only [ih]

theorem decode_compact (ps : List Piece) : decode (ps.map Piece.compact) = decode ps :=
  decodeFrom_compact ps none

/-- The characters of tokens that are not strings. -/
def isToken (c : Char) : Bool := !isBlank c && c != '"' && !isHTML c

theorem strip_cons {c : Char} (h : isToken c = true) (cs : List Char) :
    strip .between (c :: cs) = c :: strip .between cs := by
  simp only [isToken, Bool.and_eq_true, Bool.not_eq_true', bne_iff_ne, ne_eq] at h
  simp [strip_between, escapeHTML, Mode.next, h]

theorem strip_token {t : List Char} (h : t.all isToken = true) (cs : List Char) :
    strip .between (t ++ cs) = t ++ strip .between cs := by
  induction t with
  | nil => rfl
  | cons c t ih =>
    rw [List.all_cons, Bool.and_eq_true] at h
    rw [List.cons_append, strip_cons h.1, ih h.2, List.cons_append]

theorem isToken_numChar {c : Char} (h : isNumChar c = true) : isToken c = true := by
  have hne : ∀ d, isNumChar d = false → c ≠ d := by
    rintro d hd rfl
    exact absurd h (by simp [hd])
  have hblank : isBlank c = false := (opens_numChar h).1
  have hhtml : isHTML c = false := by
    simp [isHTML, hne '<' (by decide), hne '>' (by decide), hne '&' (by decide),
      hne '\u2028' (by decide), hne '\u2029' (by decide)]
  simp [isToken, hblank, hhtml, hne '"' (by decide)]

/-- A character that does not end a string or begin an escape. -/
theorem strip_inString_cons {c : Char} (h : c ≠ '"' ∧ c ≠ '\\') (cs : List Char) :
    strip .inString (c :: cs) = escapeHTML c ++ strip .inString cs := by
  rw [strip_inString, Mode.next, if_neg h.1, if_neg h.2]

theorem strip_escape (c : Char) (hc : isHTML c = false) (cs : List Char) :
    strip .inString ('\\' :: c :: cs) = '\\' :: c :: strip .inString cs := by
  simp [strip_inString, strip_escaped, Mode.next, escapeHTML, hc,
    show isHTML '\\' = false by decide]

theorem Hex.char_ne (h : Hex) {d : Char} (hd : hexVal d = none) : h.char ≠ d := by
  rintro rfl
  exact absurd h.isHex (by simp [hd])

theorem Hex.isHTML_char (h : Hex) : isHTML h.char = false := by
  simp [isHTML, h.char_ne (show hexVal '<' = none by decide),
    h.char_ne (show hexVal '>' = none by decide), h.char_ne (show hexVal '&' = none by decide),
    h.char_ne (show hexVal '\u2028' = none by decide),
    h.char_ne (show hexVal '\u2029' = none by decide)]

theorem strip_piece (p : Piece) (cs : List Char) :
    strip .inString (p.text ++ cs) = p.compact.text ++ strip .inString cs := by
  cases p with
  | plain c h =>
    simp only [isPlain, Bool.and_eq_true, bne_iff_ne, ne_eq] at h
    show strip .inString (c :: cs) = _
    rw [strip_inString_cons ⟨h.1.2, h.2⟩, Piece.compact, escapeHTML]
    split <;> rfl
  | esc e =>
    show strip .inString ('\\' :: e.letter :: cs) = _
    rw [strip_escape _ (by cases e <;> decide)]
    rfl
  | unicode h₁ h₂ h₃ h₄ =>
    have hhex : ∀ (h : Hex) (cs : List Char),
        strip .inString (h.char :: cs) = h.char :: strip .inString cs := by
      intro h cs
      rw [strip_inString_cons ⟨h.char_ne (by decide), h.char_ne (by decide)⟩, escapeHTML,
        h.isHTML_char]
      rfl
    show strip .inString ('\\' :: 'u' :: h₁.char :: h₂.char :: h₃.char :: h₄.char :: cs) = _
    rw [strip_escape _ (by decide), hhex, hhex, hhex, hhex]
    rfl

theorem strip_literal (ps : List Piece) (cs : List Char) :
    strip .inString (literal ps ++ cs) = literal (ps.map Piece.compact) ++ strip .between cs := by
  induction ps with
  | nil =>
    show strip .inString ('"' :: cs) = '"' :: strip .between cs
    simp [strip_inString, Mode.next, escapeHTML, show isHTML '"' = false by decide]
  | cons p ps ih =>
    rw [literal_cons_append, strip_piece, ih, List.map_cons, literal_cons_append]

theorem strip_quote (ps : List Piece) (cs : List Char) :
    strip .between ('"' :: (literal ps ++ cs)) =
      '"' :: (literal (ps.map Piece.compact) ++ strip .between cs) := by
  have hopen : ∀ cs, strip .between ('"' :: cs) = '"' :: strip .inString cs := by
    intro cs
    simp [strip_between, Mode.next, escapeHTML, show isHTML '"' = false by decide,
      show isBlank '"' = false by decide]
  rw [hopen, strip_literal]

theorem strip_key (k : Key) (cs : List Char) :
    strip .between (k.text ++ cs) = k.compact.text ++ strip .between cs := by
  rw [Key.text_append, strip_space, strip_quote, strip_space, strip_cons (by decide), strip_space,
    Key.text_append]
  rfl

/-- Stripping a text strips its tree. -/
theorem strip_text {k : Kind} (s : Syn k) (cs : List Char) :
    strip .between (s.text ++ cs) = s.compact.text ++ strip .between cs := by
  induction s generalizing cs with
  | null => exact strip_token (by decide) cs
  | bool b => cases b <;> exact strip_token (by decide) cs
  | num n =>
    have hall : n.lit.all isToken = true :=
      List.all_eq_true.mpr fun c hc => isToken_numChar (n.isNumChar c hc)
    exact strip_token hall cs
  | str ps => exact strip_quote ps cs
  | emptyArr w =>
    rw [Syn.text_emptyArr, strip_cons (by decide), strip_space, strip_cons (by decide)]
    rfl
  | arr es ih =>
    show strip .between ('[' :: (es.text ++ cs)) = _
    rw [strip_cons (by decide), ih]
    rfl
  | emptyObj w =>
    rw [Syn.text_emptyObj, strip_cons (by decide), strip_space, strip_cons (by decide)]
    rfl
  | obj ms ih =>
    show strip .between ('{' :: (ms.text ++ cs)) = _
    rw [strip_cons (by decide), ih]
    rfl
  | lastElem w v w' ih =>
    rw [Syn.text_lastElem, strip_space, ih, strip_space, strip_cons (by decide), Syn.compact,
      Syn.text_lastElem]
    rfl
  | elem w v w' es ihv ihes =>
    rw [Syn.text_elem, strip_space, ihv, strip_space, strip_cons (by decide), ihes, Syn.compact,
      Syn.text_elem]
    rfl
  | lastMember k v w ih =>
    rw [Syn.text_lastMember, strip_key, ih, strip_space, strip_cons (by decide), Syn.compact,
      Syn.text_lastMember]
    rfl
  | member k v w ms ihv ihms =>
    rw [Syn.text_member, strip_key, ihv, strip_space, strip_cons (by decide), ihms, Syn.compact,
      Syn.text_member]
    rfl

/-- What two trees of one kind have in common when only the source texts of
their members may differ. -/
def SameSem : {k : Kind} → Sem ν k → Sem ν k → Prop
  | .value, v, v' => v = v'
  | .elems, vs, vs' => vs = vs'
  | .members, fs, fs' => List.map Member.pair fs = List.map Member.pair fs'

/-- The stripped text denotes the same value. -/
theorem sem_compact (A : Interp ν) {k : Kind} (s : Syn k) :
    SameSem (s.compact.sem A) (s.sem A) := by
  induction s with
  | null => rfl
  | bool b => rfl
  | num n => rfl
  | str ps => exact congrArg A.str (decode_compact ps)
  | emptyArr w => rfl
  | arr es ih => exact congrArg A.arr ih
  | emptyObj w => rfl
  | obj ms ih => exact congrArg A.obj ih
  | lastElem w v w' ih => exact congrArg (fun x : ν => [x]) ih
  | elem w v w' es ihv ihes => exact congrArg₂ (List.cons (α := ν)) ihv ihes
  | lastMember k v w ih =>
    exact congrArg₂ (fun (name : List Char) (x : ν) => [(name, x)]) (decode_compact k.name) ih
  | member k v w ms ihv ihms =>
    have hhead : (decode k.compact.name, v.compact.sem A) = (decode k.name, v.sem A) :=
      Prod.ext (decode_compact k.name) ihv
    exact congrArg₂ (List.cons (α := List Char × ν)) hhead ihms

theorem strip_document (d : Document) : strip .between d.text = d.value.compact.text := by
  have hafter : strip .between d.after.chars = [] := by
    have h := strip_space d.after []
    rwa [List.append_nil] at h
  rw [Document.text, List.append_assoc, strip_space, strip_text, hafter, List.append_nil]

theorem Denotes.strip {t : List Char} {v : ν} (h : Denotes A t v) :
    Denotes A (strip .between t) v := by
  obtain ⟨d, rfl, rfl⟩ := h
  refine ⟨⟨.none, d.value.compact, .none⟩, ?_, sem_compact A d.value⟩
  rw [strip_document]
  simp [Document.text, Space.none]

-- ---------------------------------------------------------------------------
-- Stripped texts fit on a line
-- ---------------------------------------------------------------------------

/-- No control character, and so no line break. -/
def OneLine (cs : List Char) : Prop := ∀ c ∈ cs, 0x20 ≤ c.toNat

instance (cs : List Char) : Decidable (OneLine cs) :=
  List.decidableBAll (fun c : Char => 0x20 ≤ c.toNat) cs

theorem oneLine_nil : OneLine [] := List.forall_mem_nil _

theorem oneLine_cons {c : Char} {cs : List Char} (hc : 0x20 ≤ c.toNat) (h : OneLine cs) :
    OneLine (c :: cs) :=
  List.forall_mem_cons.mpr ⟨hc, h⟩

theorem OneLine.append {cs ds : List Char} (h : OneLine cs) (h' : OneLine ds) :
    OneLine (cs ++ ds) :=
  List.forall_mem_append.mpr ⟨h, h'⟩

theorem OneLine.not_mem {cs : List Char} (h : OneLine cs) {c : Char} (hc : c.toNat < 0x20) :
    c ∉ cs := by
  intro hmem
  exact absurd (h c hmem) (by omega)

theorem Hex.char_printable (h : Hex) : 0x20 ≤ h.char.toNat := by
  by_contra hlt
  have hle : ∀ d : Char, 0x20 ≤ d.toNat → ¬ d ≤ h.char := by
    intro d hd hd'
    have hval : d.toNat ≤ h.char.toNat := hd'
    omega
  have hnone : hexVal h.char = none := by
    rw [hexVal, if_neg fun hc => hle _ (by decide) hc.1, if_neg fun hc => hle _ (by decide) hc.1,
      if_neg fun hc => hle _ (by decide) hc.1]
  exact absurd h.isHex (by simp [hnone])

theorem Piece.oneLine (p : Piece) : OneLine p.text := by
  cases p with
  | plain c h =>
    simp only [isPlain, Bool.and_eq_true, decide_eq_true_eq] at h
    exact oneLine_cons h.1.1 oneLine_nil
  | esc e => cases e <;> decide
  | unicode h₁ h₂ h₃ h₄ =>
    have h₃₄ : OneLine [h₃.char, h₄.char] :=
      oneLine_cons h₃.char_printable (oneLine_cons h₄.char_printable oneLine_nil)
    have h₁₂ := oneLine_cons h₁.char_printable (oneLine_cons h₂.char_printable h₃₄)
    exact oneLine_cons (by decide) (oneLine_cons (by decide) h₁₂)

theorem literal_oneLine (ps : List Piece) : OneLine (literal ps) := by
  refine OneLine.append ?_ (by decide)
  intro c hc
  obtain ⟨p, -, hp⟩ := List.mem_flatMap.mp hc
  exact p.oneLine c hp

theorem isNumChar_printable {c : Char} (h : isNumChar c = true) : 0x20 ≤ c.toNat := by
  simp only [isNumChar, isDigit, Bool.or_eq_true, decide_eq_true_eq, beq_iff_eq] at h
  rcases h with ((((h | rfl) | rfl) | rfl) | rfl) | rfl
  · have hval : '0'.toNat ≤ c.toNat := h.1
    exact le_trans (by decide) hval
  all_goals decide

theorem Key.oneLine_compact (k : Key) : OneLine k.compact.text := by
  have htext : k.compact.text = '"' :: (literal (k.name.map Piece.compact) ++ [':']) := by
    simp [Key.compact, Key.text, Space.none]
  rw [htext]
  exact oneLine_cons (by decide) ((literal_oneLine _).append (by decide))

theorem Syn.oneLine_compact {k : Kind} (s : Syn k) : OneLine s.compact.text := by
  induction s with
  | null => decide
  | bool b => cases b <;> decide
  | num n => exact fun c hc => isNumChar_printable (n.isNumChar c hc)
  | str ps => exact oneLine_cons (by decide) (literal_oneLine _)
  | emptyArr w => exact show OneLine ['[', ']'] by decide
  | arr es ih => exact oneLine_cons (by decide) ih
  | emptyObj w => exact show OneLine ['{', '}'] by decide
  | obj ms ih => exact oneLine_cons (by decide) ih
  | lastElem w v w' ih =>
    have htext : (Syn.lastElem w v w').compact.text = v.compact.text ++ [']'] := by
      simp [Syn.compact, Syn.text, Space.none]
    rw [htext]
    exact ih.append (by decide)
  | elem w v w' es ihv ihes =>
    have htext : (Syn.elem w v w' es).compact.text =
        v.compact.text ++ ',' :: es.compact.text := by
      simp [Syn.compact, Syn.text, Space.none]
    rw [htext]
    exact ihv.append (oneLine_cons (by decide) ihes)
  | lastMember k v w ih =>
    have htext : (Syn.lastMember k v w).compact.text =
        k.compact.text ++ (v.compact.text ++ ['}']) := by
      simp [Syn.compact, Syn.text, Space.none]
    rw [htext]
    exact k.oneLine_compact.append (ih.append (by decide))
  | member k v w ms ihv ihms =>
    have htext : (Syn.member k v w ms).compact.text =
        k.compact.text ++ (v.compact.text ++ ',' :: ms.compact.text) := by
      simp [Syn.compact, Syn.text, Space.none]
    rw [htext]
    exact k.oneLine_compact.append (ihv.append (oneLine_cons (by decide) ihms))

-- ---------------------------------------------------------------------------
-- Writing strings and objects
-- ---------------------------------------------------------------------------

/-- How a character is written in a string. -/
def quotePiece (c : Char) : Piece :=
  if c = '"' then .esc .quote
  else if c = '\\' then .esc .backslash
  else if c = '\x08' then .esc .b
  else if c = '\x0c' then .esc .f
  else if c = '\n' then .esc .n
  else if c = '\r' then .esc .r
  else if c = '\t' then .esc .t
  else if h : isPlain c = true ∧ isHTML c = false then .plain c h.1
  else .ofCode c.toNat

def quote (s : List Char) : List Piece := s.map quotePiece

/-- An object's text from the names and the texts of its members. The
character is what stands before the first of them. -/
def encodeMembers : Char → List (List Char × List Char) → List Char
  | before, [] => if before = '{' then ['{', '}'] else ['}']
  | before, (name, t) :: ms =>
    before :: '"' :: (literal (quote name) ++ ':' :: (t ++ encodeMembers ',' ms))

theorem decode_quotePiece (c : Char) (ps : List Piece) :
    decodeFrom none (quotePiece c :: ps) = c :: decodeFrom none ps := by
  unfold quotePiece
  split_ifs with h₁ h₂ h₃ h₄ h₅ h₆ h₇ h
  · subst h₁; rfl
  · subst h₂; rfl
  · subst h₃; rfl
  · subst h₄; rfl
  · subst h₅; rfl
  · subst h₆; rfl
  · subst h₇; rfl
  · rfl
  · -- what is left is a control character, or escaped for the sake of HTML
    refine decodeFrom_ofCode none ?_ ps
    by_cases hhtml : isHTML c = true
    · exact isHTML_toNat hhtml
    · have hplain : ¬ isPlain c = true := fun hc => h ⟨hc, by simpa using hhtml⟩
      simp only [isPlain, Bool.and_eq_true, bne_iff_ne, ne_eq, h₁, h₂, not_false_eq_true,
        and_true, decide_eq_true_eq, not_le] at hplain
      omega

/-- A quoted string reads back. -/
theorem decode_quote (s : List Char) : decode (quote s) = s := by
  induction s with
  | nil => rfl
  | cons c s ih =>
    show decodeFrom none (quotePiece c :: quote s) = _
    rw [decode_quotePiece]
    exact congrArg (c :: ·) ih

/-- The tree of an object with quoted names and no white space. -/
def ofMembers : List Char × Syn .value → List (List Char × Syn .value) → Syn .members
  | (name, v), [] => .lastMember ⟨.none, quote name, .none, .none⟩ v .none
  | (name, v), m :: ms => .member ⟨.none, quote name, .none, .none⟩ v .none (ofMembers m ms)

theorem encodeMembers_eq (m : List Char × Syn .value) (ms : List (List Char × Syn .value))
    (before : Char) :
    encodeMembers before ((m :: ms).map fun m => (m.1, m.2.text)) =
      before :: (ofMembers m ms).text := by
  induction ms generalizing m before with
  | nil => simp [encodeMembers, ofMembers, Syn.text, Key.text, Space.none]
  | cons m' ms ih =>
    rw [List.map_cons, encodeMembers, ih]
    simp [ofMembers, Syn.text, Key.text, Space.none]

theorem sem_ofMembers (A : Interp ν) (m : List Char × Syn .value)
    (ms : List (List Char × Syn .value)) :
    (ofMembers m ms).sem A = (m :: ms).map fun m => (⟨m.1, m.2.text, m.2.sem A⟩ : Member ν) := by
  induction ms generalizing m with
  | nil =>
    rw [ofMembers, Syn.sem, decode_quote]
    rfl
  | cons m' ms ih =>
    rw [ofMembers, Syn.sem, ih, decode_quote]
    rfl

/-- A written object reads back, member for member. -/
theorem parseFields_encodeMembers (A : Interp ν) (m : List Char × Syn .value)
    (ms : List (List Char × Syn .value)) :
    parseFields A (encodeMembers '{' ((m :: ms).map fun m => (m.1, m.2.text))) =
      some ((m :: ms).map fun m => ⟨m.1, m.2.text, m.2.sem A⟩) := by
  rw [encodeMembers_eq, ← sem_ofMembers]
  exact parseFields_text A (ofMembers m ms)

theorem encodeMembers_oneLine {before : Char} (hbefore : 0x20 ≤ before.toNat)
    {ms : List (List Char × List Char)} (h : ∀ m ∈ ms, OneLine m.2) :
    OneLine (encodeMembers before ms) := by
  induction ms generalizing before with
  | nil =>
    rw [encodeMembers]
    split <;> decide
  | cons m ms ih =>
    rw [List.forall_mem_cons] at h
    have hrest : OneLine (encodeMembers ',' ms) := ih (by decide) h.2
    have hvalue : OneLine (':' :: (m.2 ++ encodeMembers ',' ms)) :=
      oneLine_cons (by decide) (h.1.append hrest)
    have hmember := (literal_oneLine (quote m.1)).append hvalue
    exact oneLine_cons hbefore (oneLine_cons (by decide) hmember)

/-- A written object ends with its brace. -/
theorem encodeMembers_getLast (before : Char) (ms : List (List Char × List Char)) :
    ∃ cs, encodeMembers before ms = cs ++ ['}'] := by
  induction ms generalizing before with
  | nil =>
    rw [encodeMembers]
    split
    · exact ⟨['{'], rfl⟩
    · exact ⟨[], rfl⟩
  | cons m ms ih =>
    obtain ⟨cs, hcs⟩ := ih ','
    refine ⟨before :: '"' :: (literal (quote m.1) ++ ':' :: (m.2 ++ cs)), ?_⟩
    rw [encodeMembers, hcs]
    simp

end JsonText
