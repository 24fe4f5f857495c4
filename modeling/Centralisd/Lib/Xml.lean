import Mathlib.Data.List.Basic
import Mathlib.Data.List.Infix

/-!
# XML as text

XML 1.0 documents without document type, comments, processing instructions
and CDATA sections: a scanner that splits a text into tags and character
data, and a builder that nests them. Names are ASCII here; a document with
anything else is refused.

`escape` writes a string so that it may stand in character data or in a
quoted attribute. `Markup` is a document as a program writes it, with the
strings it puts in still plain: `parse_markup` says that the text of any
markup is read back as that markup, whatever the strings are, up to the
characters that XML has no way to write (`clean`).
-/

namespace Xml

-- ---------------------------------------------------------------------------
-- Characters
-- ---------------------------------------------------------------------------

/-- The characters of XML 1.0. -/
def isChar (c : Char) : Bool :=
  c == '\t' || c == '\n' || c == '\r' || (decide (0x20 ≤ c.toNat) && decide (c.toNat ≤ 0xD7FF)) ||
    (decide (0xE000 ≤ c.toNat) && decide (c.toNat ≤ 0xFFFD)) || decide (0x10000 ≤ c.toNat)

def isSpace (c : Char) : Bool := c == ' ' || c == '\t' || c == '\n' || c == '\r'

def isNameStart (c : Char) : Bool := c.isAlpha || c == '_' || c == ':'

def isNameChar (c : Char) : Bool := isNameStart c || c.isDigit || c == '-' || c == '.'

-- ---------------------------------------------------------------------------
-- References
-- ---------------------------------------------------------------------------

def decVal (c : Char) : Option Nat := if '0' ≤ c ∧ c ≤ '9' then some (c.toNat - 48) else none

def hexVal (c : Char) : Option Nat :=
  if '0' ≤ c ∧ c ≤ '9' then some (c.toNat - 48)
  else if 'a' ≤ c ∧ c ≤ 'f' then some (c.toNat - 87)
  else if 'A' ≤ c ∧ c ≤ 'F' then some (c.toNat - 55)
  else none

/-- A character given by its number. -/
def charRef (base : Nat) (digit : Char → Option Nat) (ds : List Char) : Option Char :=
  if ds = [] then none
  else match ds.foldlM (fun n d => (digit d).map (base * n + ·)) 0 with
    | none => none
    | some n => if n.isValidChar ∧ isChar (Char.ofNat n) = true then some (Char.ofNat n) else none

/-- What stands between `&` and `;`. -/
def reference : List Char → Option Char
  | ['l', 't'] => some '<'
  | ['g', 't'] => some '>'
  | ['a', 'm', 'p'] => some '&'
  | ['a', 'p', 'o', 's'] => some '\''
  | ['q', 'u', 'o', 't'] => some '"'
  | '#' :: 'x' :: ds => charRef 16 hexVal ds
  | '#' :: ds => charRef 10 decVal ds
  | _ => none

/-- A character that stands for itself; white space in an attribute is read
as blanks. -/
def literal (attr : Bool) (c : Char) : Char := if attr && isSpace c then ' ' else c

/-- Raw character data or a raw attribute value, from inside a reference
(whose characters so far stand in reverse) or outside. -/
def unescape (attr : Bool) : Option (List Char) → List Char → Option (List Char)
  | none, [] => some []
  | some _, [] => none
  | none, c :: cs =>
    if c = '&' then unescape attr (some []) cs
    else if isChar c then (unescape attr none cs).map (literal attr c :: ·)
    else none
  | some acc, c :: cs =>
    if c = ';' then match reference acc.reverse with
      | some r => (unescape attr none cs).map (r :: ·)
      | none => none
    else unescape attr (some (c :: acc)) cs

-- ---------------------------------------------------------------------------
-- Scanning
-- ---------------------------------------------------------------------------

inductive Token where
  | start (name : String) (attrs : List (String × String))
  | empty (name : String) (attrs : List (String × String))
  | close (name : String)
  | text (s : String)
  deriving DecidableEq, Repr

def skipSpace (cs : List Char) : List Char := cs.dropWhile isSpace

def scanName : List Char → Option (String × List Char)
  | c :: cs =>
    if isNameStart c then some (String.ofList (c :: cs.takeWhile isNameChar), cs.dropWhile isNameChar)
    else none
  | [] => none

/-- A quoted attribute value. -/
def scanValue : List Char → Option (String × List Char)
  | q :: cs =>
    if q = '\'' ∨ q = '"' then
      match cs.dropWhile (· ≠ q) with
      | _ :: rest =>
        if '<' ∈ cs.takeWhile (· ≠ q) then none
        else (unescape true none (cs.takeWhile (· ≠ q))).map fun v => (String.ofList v, rest)
      | [] => none
    else none
  | [] => none

def scanAttr (cs : List Char) : Option ((String × String) × List Char) :=
  match scanName cs with
  | none => none
  | some (name, cs) => match skipSpace cs with
    | '=' :: cs => (scanValue (skipSpace cs)).map fun v => ((name, v.1), v.2)
    | _ => none

/-- The attributes of a tag, up to its end. -/
def scanAttrs : Nat → List Char → Option (List (String × String) × List Char)
  | 0, _ => none
  | fuel + 1, cs =>
    if (skipSpace cs).head? = some '>' ∨ (skipSpace cs).head? = some '/' then
      some ([], skipSpace cs)
    -- white space must stand before an attribute
    else if (cs.head?.map isSpace).getD false = false then none
    else match scanAttr (skipSpace cs) with
      | none => none
      | some (a, rest) => (scanAttrs fuel rest).map fun r => (a :: r.1, r.2)

/-- A tag, after its `<`. -/
def scanTag : List Char → Option (Token × List Char)
  | '/' :: cs => match scanName cs with
    | none => none
    | some (name, cs) => match skipSpace cs with
      | '>' :: rest => some (.close name, rest)
      | _ => none
  | cs => match scanName cs with
    | none => none
    | some (name, cs) => match scanAttrs (cs.length + 1) cs with
      | none => none
      | some (attrs, cs) =>
        if (attrs.map Prod.fst).Nodup then match cs with
          | '>' :: rest => some (.start name attrs, rest)
          | '/' :: '>' :: rest => some (.empty name attrs, rest)
          | _ => none
        else none

def scanText (cs : List Char) : Option (Token × List Char) :=
  if [']', ']', '>'] <:+: cs.takeWhile (· ≠ '<') then none
  else (unescape false none (cs.takeWhile (· ≠ '<'))).map fun s =>
    (.text (String.ofList s), cs.dropWhile (· ≠ '<'))

def scanToken : List Char → Option (Token × List Char)
  | '<' :: cs => scanTag cs
  | cs => scanText cs

def scan : Nat → List Char → Option (List Token)
  | _, [] => some []
  | 0, _ :: _ => none
  | fuel + 1, c :: cs => match scanToken (c :: cs) with
    | none => none
    | some (t, rest) => (scan fuel rest).map (t :: ·)

-- ---------------------------------------------------------------------------
-- Nesting
-- ---------------------------------------------------------------------------

inductive Node where
  | text (s : String)
  | elem (name : String) (attrs : List (String × String)) (children : List Node)

/-- Nest the tokens: the children read so far, last first, and the open
elements with the children read before them. -/
def nest : List Token → List Node → List (String × List (String × String) × List Node) →
    Option (List Node)
  | [], acc, [] => some acc.reverse
  | [], _, _ :: _ => none
  | .text s :: ts, acc, opened => nest ts (.text s :: acc) opened
  | .empty name attrs :: ts, acc, opened => nest ts (.elem name attrs [] :: acc) opened
  | .start name attrs :: ts, acc, opened => nest ts [] ((name, attrs, acc) :: opened)
  | .close _ :: _, _, [] => none
  | .close name :: ts, acc, (name', attrs, up) :: opened =>
    if name = name' then nest ts (.elem name attrs acc.reverse :: up) opened else none

/-- Line ends are read as `\n` before anything else. -/
def normalizeLines : List Char → List Char
  | [] => []
  | '\r' :: '\n' :: cs => '\n' :: normalizeLines cs
  | c :: cs => (if c = '\r' then '\n' else c) :: normalizeLines cs

/-- Character data of blanks only may surround the root. -/
def Node.isBlank : Node → Bool
  | .text s => s.toList.all isSpace
  | .elem .. => false

def parse (doc : String) : Option Node :=
  match scan (normalizeLines doc.toList).length (normalizeLines doc.toList) with
  | none => none
  | some ts => match nest ts [] [] with
    | none => none
    | some nodes => match nodes.filter fun n => !n.isBlank with
      | [.elem name attrs children] => some (.elem name attrs children)
      | _ => none

-- ---------------------------------------------------------------------------
-- Reading a tree
-- ---------------------------------------------------------------------------

def Node.attr (n : Node) (name : String) : Option String :=
  match n with
  | .text _ => none
  | .elem _ attrs _ => (attrs.find? fun a => a.1 == name).map Prod.snd

def Node.isNamed (name : String) : Node → Bool
  | .text _ => false
  | .elem name' _ _ => name' == name

/-- The child elements of a name, in order. -/
def Node.childrenNamed (n : Node) (name : String) : List Node :=
  match n with
  | .text _ => []
  | .elem _ _ children => children.filter (Node.isNamed name)

def Node.data : Node → String
  | .text s => s
  | .elem .. => ""

/-- The character data directly inside an element. -/
def Node.content (n : Node) : String :=
  match n with
  | .text s => s
  | .elem _ _ children => String.join (children.map Node.data)

/-- The elements and attribute names of a tree, without its strings. -/
inductive Skeleton where
  | mk (name : String) (attrs : List String) (children : List Skeleton)

mutual
def Node.skeleton : Node → Option Skeleton
  | .text _ => none
  | .elem name attrs children => some ⟨name, attrs.map Prod.fst, skeletons children⟩

def skeletons : List Node → List Skeleton
  | [] => []
  | n :: ns => n.skeleton.toList ++ skeletons ns
end

-- ---------------------------------------------------------------------------
-- Writing
-- ---------------------------------------------------------------------------

/-- How a character is written in character data and attribute values. -/
def escapeChar (c : Char) : List Char :=
  if c = '"' then ['&', '#', '3', '4', ';']
  else if c = '\'' then ['&', '#', '3', '9', ';']
  else if c = '&' then ['&', 'a', 'm', 'p', ';']
  else if c = '<' then ['&', 'l', 't', ';']
  else if c = '>' then ['&', 'g', 't', ';']
  else if c = '\t' then ['&', '#', 'x', '9', ';']
  else if c = '\n' then ['&', '#', 'x', 'A', ';']
  else if c = '\r' then ['&', '#', 'x', 'D', ';']
  else if isChar c then [c]
  else ['\ufffd']

def escape (cs : List Char) : List Char := cs.flatMap escapeChar

/-- What is left of a character that was written. -/
def cleanChar (c : Char) : Char := if isChar c then c else '\ufffd'

def clean (s : String) : String := String.ofList (s.toList.map cleanChar)

def writeAttrs : List (String × String) → List Char
  | [] => []
  | (name, value) :: attrs =>
    ' ' :: (name.toList ++ '=' :: '\'' :: (escape value.toList ++ '\'' :: writeAttrs attrs))

/-- A document as a program writes it: elements without content, with one
string, and with elements inside. -/
inductive Markup where
  | empty (name : String) (attrs : List (String × String))
  | text (name : String) (attrs : List (String × String)) (body : String)
  | elem (name : String) (attrs : List (String × String)) (children : List Markup)

mutual
def Markup.write : Markup → List Char
  | .empty name attrs => '<' :: (name.toList ++ (writeAttrs attrs ++ ['/', '>']))
  | .text name attrs body => '<' :: (name.toList ++ (writeAttrs attrs ++
      '>' :: (escape body.toList ++ '<' :: '/' :: (name.toList ++ ['>']))))
  | .elem name attrs children => '<' :: (name.toList ++ (writeAttrs attrs ++
      '>' :: (writeMarkups children ++ '<' :: '/' :: (name.toList ++ ['>']))))

def writeMarkups : List Markup → List Char
  | [] => []
  | m :: ms => m.write ++ writeMarkups ms
end

def cleanAttrs (attrs : List (String × String)) : List (String × String) :=
  attrs.map fun a => (a.1, clean a.2)

/-- The string of an element, if there is any. -/
def textNodes (body : String) : List Node := if body = "" then [] else [.text (clean body)]

mutual
/-- The tree that the markup is read as. -/
def Markup.node : Markup → Node
  | .empty name attrs => .elem name (cleanAttrs attrs) []
  | .text name attrs body => .elem name (cleanAttrs attrs) (textNodes body)
  | .elem name attrs children => .elem name (cleanAttrs attrs) (nodes children)

def nodes : List Markup → List Node
  | [] => []
  | m :: ms => m.node :: nodes ms
end

def isName (name : String) : Bool :=
  match name.toList with
  | [] => false
  | c :: cs => isNameStart c && cs.all isNameChar

/-- Names are names, and no attribute is given twice. -/
def attrsOK (attrs : List (String × String)) : Bool :=
  (attrs.all fun a => isName a.1) && decide (attrs.map Prod.fst).Nodup

mutual
def Markup.ok : Markup → Bool
  | .empty name attrs => isName name && attrsOK attrs
  | .text name attrs _ => isName name && attrsOK attrs
  | .elem name attrs children => isName name && attrsOK attrs && allOK children

def allOK : List Markup → Bool
  | [] => true
  | m :: ms => m.ok && allOK ms
end

/-! Reading the tree of a markup. -/

section
variable (name name' : String) (attrs : List (String × String))

@[simp] theorem Markup.node_empty : (Markup.empty name attrs).node =
    .elem name (cleanAttrs attrs) [] := by rw [Markup.node]

@[simp] theorem Markup.node_text (body : String) : (Markup.text name attrs body).node =
    .elem name (cleanAttrs attrs) (textNodes body) := by rw [Markup.node]

@[simp] theorem Markup.node_elem (children : List Markup) :
    (Markup.elem name attrs children).node = .elem name (cleanAttrs attrs) (nodes children) := by
  rw [Markup.node]

@[simp] theorem nodes_nil : nodes [] = [] := by rw [nodes]

@[simp] theorem nodes_cons (m : Markup) (ms : List Markup) :
    nodes (m :: ms) = m.node :: nodes ms := by rw [nodes]

@[simp] theorem Node.childrenNamed_elem (children : List Node) :
    (Node.elem name attrs children).childrenNamed name' = children.filter (Node.isNamed name') :=
  rfl

@[simp] theorem Node.isNamed_elem (children : List Node) :
    (Node.elem name attrs children).isNamed name' = (name == name') := rfl

@[simp] theorem Node.attr_elem (children : List Node) :
    (Node.elem name attrs children).attr name' =
      (attrs.find? fun a => a.1 == name').map Prod.snd := rfl

@[simp] theorem Node.content_textNodes (body : String) :
    (Node.elem name attrs (textNodes body)).content = clean body := by
  unfold textNodes
  split
  · next h =>
    subst h
    rfl
  · simp [Node.content, Node.data, String.join]

@[simp] theorem skeletons_textNodes (body : String) : skeletons (textNodes body) = [] := by
  unfold textNodes
  split <;> simp [skeletons, Node.skeleton]

end

-- ---------------------------------------------------------------------------
-- What is written is read back: strings
-- ---------------------------------------------------------------------------

/-- No markup, quote or line end. -/
def isSafe (c : Char) : Bool := c != '<' && c != '>' && c != '\'' && c != '"' && c != '\r'

theorem escapeChar_safe (c : Char) : (escapeChar c).all isSafe = true := by
  unfold escapeChar
  split_ifs with h₁ h₂ h₃ h₄ h₅ h₆ h₇ h₈
  all_goals first | rfl | simp [isSafe, *]

theorem escapeChar_ne_nil (c : Char) : escapeChar c ≠ [] := by
  unfold escapeChar
  split_ifs
  all_goals exact List.cons_ne_nil _ _

theorem escape_safe (cs : List Char) : (escape cs).all isSafe = true := by
  rw [escape, List.all_flatMap, List.all_eq_true]
  exact fun c _ => escapeChar_safe c

theorem ne_of_mem_escape {cs : List Char} {c d : Char} (hc : isSafe c = false)
    (hd : d ∈ escape cs) : d ≠ c := by
  rintro rfl
  have hsafe := List.all_eq_true.mp (escape_safe cs) d hd
  rw [hc] at hsafe
  cases hsafe

/-- One written character is read back. -/
theorem unescape_escapeChar (attr : Bool) (c : Char) (cs : List Char) :
    unescape attr none (escapeChar c ++ cs) = (unescape attr none cs).map (cleanChar c :: ·) := by
  unfold escapeChar
  split_ifs with h₁ h₂ h₃ h₄ h₅ h₆ h₇ h₈ h
  iterate 8 subst_vars; rfl
  · -- it stands for itself, and is no white space but the blank
    have hlit : literal attr c = c := by
      unfold literal isSpace
      by_cases hblank : c = ' '
      · simp [hblank]
      · simp [h₆, h₇, h₈, hblank]
    simp [unescape, h₃, h, hlit, cleanChar]
  · have hlit : literal attr '\ufffd' = '\ufffd' := by cases attr <;> rfl
    have hchar : isChar '\ufffd' = true := by decide
    simp [unescape, h, cleanChar, hchar, hlit]

theorem unescape_escape (attr : Bool) (cs : List Char) :
    unescape attr none (escape cs) = some (cs.map cleanChar) := by
  induction cs with
  | nil => rfl
  | cons c cs ih =>
    rw [escape, List.flatMap_cons, unescape_escapeChar]
    show ((unescape attr none (escape cs)).map _) = _
    rw [ih, Option.map_some, List.map_cons]

/-- A scan for a character that is not written stops right after. -/
theorem takeWhile_escape {c : Char} (hc : isSafe c = false) (cs rest : List Char) :
    (escape cs ++ c :: rest).takeWhile (· ≠ c) = escape cs := by
  have hall : ∀ d ∈ escape cs, decide (d ≠ c) = true := fun d hd =>
    decide_eq_true (ne_of_mem_escape hc hd)
  rw [List.takeWhile_append_of_pos hall, List.takeWhile_cons_of_neg (by simp), List.append_nil]

theorem dropWhile_escape {c : Char} (hc : isSafe c = false) (cs rest : List Char) :
    (escape cs ++ c :: rest).dropWhile (· ≠ c) = c :: rest := by
  have hall : ∀ d ∈ escape cs, decide (d ≠ c) = true := fun d hd =>
    decide_eq_true (ne_of_mem_escape hc hd)
  rw [List.dropWhile_append_of_pos hall, List.dropWhile_cons_of_neg (by simp)]

theorem scanValue_write (value : String) (rest : List Char) :
    scanValue ('\'' :: (escape value.toList ++ '\'' :: rest)) = some (clean value, rest) := by
  have hlt : '<' ∉ escape value.toList := fun h => ne_of_mem_escape (c := '<') (by decide) h rfl
  rw [scanValue, if_pos (.inl rfl), takeWhile_escape (by decide), dropWhile_escape (by decide)]
  show (if '<' ∈ escape value.toList then none else _) = _
  rw [if_neg hlt, unescape_escape]
  rfl

-- ---------------------------------------------------------------------------
-- What is written is read back: tags
-- ---------------------------------------------------------------------------

theorem isName_cons {name : String} (h : isName name = true) :
    ∃ c cs, name.toList = c :: cs ∧ isNameStart c = true ∧ cs.all isNameChar = true := by
  unfold isName at h
  split at h
  · cases h
  · next c cs heq =>
    rw [Bool.and_eq_true] at h
    exact ⟨c, cs, heq, h⟩

/-- A name ends where no character of a name follows. -/
theorem scanName_write {name : String} (h : isName name = true) {d : Char}
    (hd : isNameChar d = false) (rest : List Char) :
    scanName (name.toList ++ d :: rest) = some (name, d :: rest) := by
  obtain ⟨c, cs, hname, hc, hcs⟩ := isName_cons h
  have hall : ∀ x ∈ cs, isNameChar x = true := List.all_eq_true.mp hcs
  have htake : (cs ++ d :: rest).takeWhile isNameChar = cs := by
    rw [List.takeWhile_append_of_pos hall, List.takeWhile_cons_of_neg (by simp [hd]),
      List.append_nil]
  have hdrop : (cs ++ d :: rest).dropWhile isNameChar = d :: rest := by
    rw [List.dropWhile_append_of_pos hall, List.dropWhile_cons_of_neg (by simp [hd])]
  rw [hname, List.cons_append, scanName, if_pos hc, htake, hdrop, ← hname, String.ofList_toList]

/-- The first character of a name begins no other kind of token. -/
theorem isNameStart_ne {c d : Char} (h : isNameStart c = true) (hd : isNameStart d = false) :
    c ≠ d := by
  rintro rfl
  rw [hd] at h
  cases h

theorem skipSpace_cons {c : Char} (h : isSpace c = false) (cs : List Char) :
    skipSpace (c :: cs) = c :: cs :=
  List.dropWhile_cons_of_neg (by simp [h])

theorem skipSpace_name {name : String} (h : isName name = true) (rest : List Char) :
    skipSpace (name.toList ++ rest) = name.toList ++ rest := by
  obtain ⟨c, cs, hname, hc, -⟩ := isName_cons h
  have hspace : isSpace c = false := by
    have hne : ∀ d, isNameStart d = false → (c == d) = false := fun d hd =>
      beq_eq_false_iff_ne.mpr (isNameStart_ne hc hd)
    simp only [isSpace, hne ' ' (by decide), hne '\t' (by decide), hne '\n' (by decide),
      hne '\r' (by decide), Bool.or_self]
  rw [hname, List.cons_append, skipSpace_cons hspace]

theorem scanAttr_write {name : String} (h : isName name = true) (value : String)
    (rest : List Char) :
    scanAttr (name.toList ++ '=' :: '\'' :: (escape value.toList ++ '\'' :: rest)) =
      some ((name, clean value), rest) := by
  have heq : isSpace '=' = false := by decide
  have hquote : isSpace '\'' = false := by decide
  rw [scanAttr, scanName_write h (by decide)]
  simp only [skipSpace_cons heq, skipSpace_cons hquote, scanValue_write, Option.map_some]

/-- The two characters that end the attributes of a tag. -/
def isTagEnd (c : Char) : Bool := c == '>' || c == '/'

theorem scanAttrs_write {attrs : List (String × String)}
    (h : (attrs.all fun a => isName a.1) = true) {d : Char} (hd : isTagEnd d = true)
    (rest : List Char) (fuel : Nat) (hfuel : attrs.length < fuel) :
    scanAttrs fuel (writeAttrs attrs ++ d :: rest) = some (cleanAttrs attrs, d :: rest) := by
  have hend : d = '>' ∨ d = '/' := by simpa [isTagEnd] using hd
  induction attrs generalizing fuel with
  | nil =>
    obtain ⟨n, rfl⟩ : ∃ n, fuel = n + 1 := ⟨fuel - 1, by simp at hfuel; omega⟩
    have hskip : skipSpace (d :: rest) = d :: rest := skipSpace_cons (by
      rcases hend with rfl | rfl <;> decide) rest
    show scanAttrs (n + 1) (d :: rest) = _
    rw [scanAttrs, hskip, if_pos (by simpa using hend)]
    rfl
  | cons a attrs ih =>
    obtain ⟨name, value⟩ := a
    obtain ⟨n, rfl⟩ : ∃ n, fuel = n + 1 := ⟨fuel - 1, by simp at hfuel; omega⟩
    rw [List.all_cons, Bool.and_eq_true] at h
    have hrest := ih h.2 n (by simp at hfuel; omega)
    obtain ⟨c, cs, hname, hc, -⟩ := isName_cons h.1
    -- after the blank a name begins, so the tag does not end here
    have hskip : ∀ cs', skipSpace (' ' :: (name.toList ++ cs')) = name.toList ++ cs' := by
      intro cs'
      show skipSpace (name.toList ++ cs') = _
      exact skipSpace_name h.1 cs'
    have hnotEnd : ∀ cs', ¬ ((name.toList ++ cs').head? = some '>' ∨
        (name.toList ++ cs').head? = some '/') := by
      intro cs'
      have hgt := isNameStart_ne (d := '>') hc (by decide)
      have hslash := isNameStart_ne (d := '/') hc (by decide)
      simp [hname, hgt, hslash]
    show scanAttrs (n + 1) (' ' :: (name.toList ++ '=' :: '\'' :: (escape value.toList ++
      '\'' :: writeAttrs attrs)) ++ d :: rest) = _
    simp only [List.cons_append, List.append_assoc]
    rw [scanAttrs, hskip, if_neg (hnotEnd _), if_neg (by simp [isSpace]), scanAttr_write h.1]
    show (scanAttrs n (writeAttrs attrs ++ d :: rest)).map _ = _
    rw [hrest]
    rfl

theorem writeAttrs_length (attrs : List (String × String)) :
    attrs.length ≤ (writeAttrs attrs).length := by
  induction attrs with
  | nil => exact Nat.zero_le _
  | cons a attrs ih =>
    simp only [writeAttrs, List.length_cons, List.length_append]
    omega

theorem cleanAttrs_fst (attrs : List (String × String)) :
    (cleanAttrs attrs).map Prod.fst = attrs.map Prod.fst := by
  simp [cleanAttrs, Function.comp_def]

/-- What follows a name in a tag: its attributes, or its end. -/
theorem writeAttrs_cons (attrs : List (String × String)) {d : Char} (hd : isTagEnd d = true)
    (rest : List Char) :
    ∃ e tail, writeAttrs attrs ++ d :: rest = e :: tail ∧ isNameChar e = false := by
  cases attrs with
  | nil =>
    have hend : d = '>' ∨ d = '/' := by simpa [isTagEnd] using hd
    exact ⟨d, rest, rfl, by rcases hend with rfl | rfl <;> decide⟩
  | cons a attrs => exact ⟨' ', _, rfl, by decide⟩

/-- The name and the attributes of a tag that is not an end tag. -/
theorem scanTag_write {name : String} {attrs : List (String × String)} (hname : isName name = true)
    (hattrs : attrsOK attrs = true) {d : Char} (hd : isTagEnd d = true) (rest : List Char) :
    scanTag (name.toList ++ (writeAttrs attrs ++ d :: rest)) = match d :: rest with
      | '>' :: rest => some (.start name (cleanAttrs attrs), rest)
      | '/' :: '>' :: rest => some (.empty name (cleanAttrs attrs), rest)
      | _ => none := by
  rw [attrsOK, Bool.and_eq_true, decide_eq_true_eq] at hattrs
  obtain ⟨c, cs, hcons, hc, -⟩ := isName_cons hname
  obtain ⟨e, tail, htail, he⟩ := writeAttrs_cons attrs hd rest
  have hscan : scanName (name.toList ++ (writeAttrs attrs ++ d :: rest)) =
      some (name, writeAttrs attrs ++ d :: rest) := by
    rw [htail, scanName_write hname he]
  have hslash := isNameStart_ne (d := '/') hc (by decide)
  have hfuel : attrs.length < (writeAttrs attrs ++ d :: rest).length + 1 := by
    have := writeAttrs_length attrs
    simp only [List.length_append, List.length_cons]
    omega
  rw [scanTag]
  · rw [hscan]
    show (match scanAttrs ((writeAttrs attrs ++ d :: rest).length + 1)
      (writeAttrs attrs ++ d :: rest) with | none => _ | some (attrs, cs) => _) = _
    rw [scanAttrs_write hattrs.1 hd rest _ hfuel]
    show (if ((cleanAttrs attrs).map Prod.fst).Nodup then _ else _) = _
    rw [cleanAttrs_fst, if_pos hattrs.2]
  · rw [hcons]
    intro cs' h
    exact hslash (List.cons.inj h).1

theorem scanTag_close {name : String} (hname : isName name = true) (rest : List Char) :
    scanTag ('/' :: (name.toList ++ '>' :: rest)) = some (.close name, rest) := by
  have hgt : isSpace '>' = false := by decide
  rw [scanTag, scanName_write hname (by decide)]
  simp only [skipSpace_cons hgt]

theorem scanToken_text {body : String} (hbody : body ≠ "") (rest : List Char) :
    scanToken (escape body.toList ++ '<' :: rest) =
      some (.text (clean body), '<' :: rest) := by
  -- the text does not begin with `<` and has no `>` in it
  have hlt : ∀ cs, escape body.toList ++ '<' :: rest = '<' :: cs → False := by
    intro cs h
    obtain ⟨c, cs', hcons⟩ : ∃ c cs', body.toList = c :: cs' :=
      List.exists_cons_of_ne_nil fun h => hbody (String.toList_eq_nil_iff.mp h)
    have hne : escape body.toList ≠ [] := by
      rw [hcons, escape, List.flatMap_cons]
      exact List.append_ne_nil_of_left_ne_nil (escapeChar_ne_nil c) _
    obtain ⟨d, ds, hd⟩ := List.exists_cons_of_ne_nil hne
    rw [hd] at h
    have hmem : d ∈ escape body.toList := hd ▸ List.mem_cons_self
    exact ne_of_mem_escape (c := '<') (by decide) hmem (List.cons.inj h).1
  have hinfix : ¬ [']', ']', '>'] <:+: escape body.toList := by
    intro h
    have hmem : '>' ∈ escape body.toList := h.subset (by simp)
    exact ne_of_mem_escape (c := '>') (by decide) hmem rfl
  rw [scanToken.eq_2 _ hlt, scanText, takeWhile_escape (by decide), dropWhile_escape (by decide),
    if_neg hinfix, unescape_escape]
  rfl

-- ---------------------------------------------------------------------------
-- What is written is read back: documents
-- ---------------------------------------------------------------------------

def textTokens (body : String) : List Token := if body = "" then [] else [.text (clean body)]

mutual
def Markup.tokens : Markup → List Token
  | .empty name attrs => [.empty name (cleanAttrs attrs)]
  | .text name attrs body => .start name (cleanAttrs attrs) :: (textTokens body ++ [.close name])
  | .elem name attrs children =>
    .start name (cleanAttrs attrs) :: (allTokens children ++ [.close name])

def allTokens : List Markup → List Token
  | [] => []
  | m :: ms => m.tokens ++ allTokens ms
end

theorem scan_token {cs rest : List Char} {t : Token} (hcs : cs ≠ [])
    (h : scanToken cs = some (t, rest)) (fuel : Nat) :
    scan (fuel + 1) cs = (scan fuel rest).map (t :: ·) := by
  obtain ⟨c, cs', rfl⟩ := List.exists_cons_of_ne_nil hcs
  rw [scan, h]

section
variable {name : String} {attrs : List (String × String)}

theorem scan_start (hname : isName name = true) (hattrs : attrsOK attrs = true) (rest : List Char)
    (fuel : Nat) :
    scan (fuel + 1) ('<' :: (name.toList ++ (writeAttrs attrs ++ '>' :: rest))) =
      (scan fuel rest).map (.start name (cleanAttrs attrs) :: ·) := by
  refine scan_token (List.cons_ne_nil _ _) ?_ fuel
  rw [scanToken, scanTag_write hname hattrs (by decide)]
  rfl

theorem scan_empty (hname : isName name = true) (hattrs : attrsOK attrs = true) (rest : List Char)
    (fuel : Nat) :
    scan (fuel + 1) ('<' :: (name.toList ++ (writeAttrs attrs ++ '/' :: '>' :: rest))) =
      (scan fuel rest).map (.empty name (cleanAttrs attrs) :: ·) := by
  refine scan_token (List.cons_ne_nil _ _) ?_ fuel
  rw [scanToken, scanTag_write hname hattrs (by decide)]
  rfl

theorem scan_close (hname : isName name = true) (rest : List Char) (fuel : Nat) :
    scan (fuel + 1) ('<' :: '/' :: (name.toList ++ '>' :: rest)) =
      (scan fuel rest).map (.close name :: ·) := by
  refine scan_token (List.cons_ne_nil _ _) ?_ fuel
  rw [scanToken, scanTag_close hname]

theorem scan_text (body : String) (rest : List Char) (fuel : Nat) :
    scan ((textTokens body).length + fuel) (escape body.toList ++ '<' :: rest) =
      (scan fuel ('<' :: rest)).map (textTokens body ++ ·) := by
  unfold textTokens
  by_cases hbody : body = ""
  · subst hbody
    simp [escape]
  · rw [if_neg hbody, List.length_singleton, Nat.add_comm]
    exact scan_token (by simp) (scanToken_text hbody rest) fuel

end

mutual
/-- The tokens of a document, whatever follows it. -/
theorem Markup.scan_write : ∀ (m : Markup), m.ok = true → ∀ (rest : List Char) (fuel : Nat),
    scan (m.tokens.length + fuel) (m.write ++ rest) = (scan fuel rest).map (m.tokens ++ ·)
  | .empty name attrs, h, rest, fuel => by
    rw [Markup.ok, Bool.and_eq_true] at h
    simp only [Markup.write, Markup.tokens, List.cons_append, List.append_assoc, List.nil_append,
      List.length_singleton]
    rw [Nat.add_comm, scan_empty h.1 h.2]
  | .text name attrs body, h, rest, fuel => by
    rw [Markup.ok, Bool.and_eq_true] at h
    simp only [Markup.write, Markup.tokens, List.cons_append, List.append_assoc, List.nil_append,
      List.length_cons, List.length_append, List.length_nil]
    have hfuel : (textTokens body).length + (0 + 1) + 1 + fuel =
        (textTokens body).length + (fuel + 1) + 1 := by omega
    rw [hfuel, scan_start h.1 h.2, scan_text, scan_close h.1]
    simp only [Option.map_map, Function.comp_def]
  | .elem name attrs children, h, rest, fuel => by
    rw [Markup.ok, Bool.and_eq_true, Bool.and_eq_true] at h
    simp only [Markup.write, Markup.tokens, List.cons_append, List.append_assoc, List.nil_append,
      List.length_cons, List.length_append, List.length_nil]
    have hfuel : (allTokens children).length + (0 + 1) + 1 + fuel =
        (allTokens children).length + (fuel + 1) + 1 := by omega
    rw [hfuel, scan_start h.1.1 h.1.2, scan_writeMarkups children h.2, scan_close h.1.1]
    simp only [Option.map_map, Function.comp_def]

theorem scan_writeMarkups : ∀ (ms : List Markup), allOK ms = true →
    ∀ (rest : List Char) (fuel : Nat),
    scan ((allTokens ms).length + fuel) (writeMarkups ms ++ rest) =
      (scan fuel rest).map (allTokens ms ++ ·)
  | [], _, rest, fuel => by simp [allTokens, writeMarkups]
  | m :: ms, h, rest, fuel => by
    rw [allOK, Bool.and_eq_true] at h
    simp only [writeMarkups, allTokens, List.append_assoc, List.length_append]
    rw [Nat.add_assoc, m.scan_write h.1, scan_writeMarkups ms h.2]
    simp only [Option.map_map, Function.comp_def]
end

theorem nest_text (body : String) (ts : List Token) (acc : List Node)
    (opened : List (String × List (String × String) × List Node)) :
    nest (textTokens body ++ ts) acc opened = nest ts (textNodes body ++ acc) opened := by
  unfold textTokens textNodes
  split <;> rfl

mutual
/-- The tokens of a document nest to its tree, whatever is around it. -/
theorem Markup.nest_tokens : ∀ (m : Markup) (ts : List Token) (acc : List Node)
    (opened : List (String × List (String × String) × List Node)),
    nest (m.tokens ++ ts) acc opened = nest ts (m.node :: acc) opened
  | .empty name attrs, ts, acc, opened => rfl
  | .text name attrs body, ts, acc, opened => by
    simp only [Markup.tokens, Markup.node, List.cons_append, List.append_assoc, List.nil_append]
    rw [nest, nest_text, nest, if_pos rfl]
    have hrev : (textNodes body ++ []).reverse = textNodes body := by
      unfold textNodes
      split <;> rfl
    rw [hrev]
  | .elem name attrs children, ts, acc, opened => by
    simp only [Markup.tokens, Markup.node, List.cons_append, List.append_assoc, List.nil_append]
    rw [nest, nest_allTokens, nest, if_pos rfl, List.append_nil, List.reverse_reverse]

theorem nest_allTokens : ∀ (ms : List Markup) (ts : List Token) (acc : List Node)
    (opened : List (String × List (String × String) × List Node)),
    nest (allTokens ms ++ ts) acc opened = nest ts ((nodes ms).reverse ++ acc) opened
  | [], ts, acc, opened => rfl
  | m :: ms, ts, acc, opened => by
    simp only [allTokens, nodes, List.append_assoc, List.reverse_cons, List.cons_append,
      List.nil_append]
    rw [m.nest_tokens, nest_allTokens ms]
end

/-! Line ends: a written document has no `\r` of its own. -/

theorem normalizeLines_eq_self {cs : List Char} (h : '\r' ∉ cs) : normalizeLines cs = cs := by
  fun_induction normalizeLines cs with
  | case1 => rfl
  | case2 cs ih => simp at h
  | case3 c cs hpair ih =>
    rw [List.mem_cons, not_or] at h
    rw [if_neg (Ne.symm h.1), ih h.2]

theorem cr_not_mem_escape (cs : List Char) : '\r' ∉ escape cs :=
  fun h => ne_of_mem_escape (c := '\r') (by decide) h rfl

theorem cr_not_mem_name {name : String} (h : isName name = true) : '\r' ∉ name.toList := by
  obtain ⟨c, cs, hname, hc, hcs⟩ := isName_cons h
  rw [hname, List.mem_cons, not_or]
  refine ⟨Ne.symm (isNameStart_ne hc (by decide)), fun hmem => ?_⟩
  have hchar := List.all_eq_true.mp hcs _ hmem
  exact absurd hchar (by decide)

theorem cr_not_mem_writeAttrs {attrs : List (String × String)}
    (h : (attrs.all fun a => isName a.1) = true) : '\r' ∉ writeAttrs attrs := by
  induction attrs with
  | nil => exact List.not_mem_nil
  | cons a attrs ih =>
    rw [List.all_cons, Bool.and_eq_true] at h
    simp [writeAttrs, cr_not_mem_name h.1, cr_not_mem_escape, ih h.2]

mutual
theorem Markup.cr_not_mem_write : ∀ (m : Markup), m.ok = true → '\r' ∉ m.write
  | .empty name attrs, h => by
    rw [Markup.ok, Bool.and_eq_true, attrsOK, Bool.and_eq_true] at h
    simp [Markup.write, cr_not_mem_name h.1, cr_not_mem_writeAttrs h.2.1]
  | .text name attrs body, h => by
    rw [Markup.ok, Bool.and_eq_true, attrsOK, Bool.and_eq_true] at h
    simp [Markup.write, cr_not_mem_name h.1, cr_not_mem_writeAttrs h.2.1, cr_not_mem_escape]
  | .elem name attrs children, h => by
    rw [Markup.ok, Bool.and_eq_true, Bool.and_eq_true, attrsOK, Bool.and_eq_true] at h
    simp [Markup.write, cr_not_mem_name h.1.1, cr_not_mem_writeAttrs h.1.2.1,
      cr_not_mem_writeMarkups children h.2]

theorem cr_not_mem_writeMarkups : ∀ (ms : List Markup), allOK ms = true → '\r' ∉ writeMarkups ms
  | [], _ => List.not_mem_nil
  | m :: ms, h => by
    rw [allOK, Bool.and_eq_true] at h
    simp [writeMarkups, m.cr_not_mem_write h.1, cr_not_mem_writeMarkups ms h.2]
end

theorem textTokens_length (body : String) :
    (textTokens body).length ≤ (escape body.toList).length + 1 := by
  unfold textTokens
  split <;> simp

mutual
theorem Markup.tokens_length : ∀ (m : Markup), m.tokens.length ≤ m.write.length
  | .empty name attrs => by simp [Markup.tokens, Markup.write]
  | .text name attrs body => by
    have := textTokens_length body
    simp only [Markup.tokens, Markup.write, List.length_cons, List.length_append, List.length_nil]
    omega
  | .elem name attrs children => by
    have := allTokens_length children
    simp only [Markup.tokens, Markup.write, List.length_cons, List.length_append, List.length_nil]
    omega

theorem allTokens_length : ∀ (ms : List Markup), (allTokens ms).length ≤ (writeMarkups ms).length
  | [] => le_rfl
  | m :: ms => by
    have := m.tokens_length
    have := allTokens_length ms
    simp only [allTokens, writeMarkups, List.length_append]
    omega
end

/-- **Reading back.** The text of a markup is a document, and it is read as
the markup's tree, whatever the strings in it. -/
theorem parse_markup (m : Markup) (h : m.ok = true) {doc : String} (hdoc : doc.toList = m.write) :
    parse doc = some m.node := by
  have hscan : scan m.write.length m.write = some m.tokens := by
    have hlen := m.tokens_length
    have := m.scan_write h [] (m.write.length - m.tokens.length)
    rw [List.append_nil, Nat.add_sub_cancel' hlen, scan, Option.map_some, List.append_nil] at this
    exact this
  have hnest : nest m.tokens [] [] = some [m.node] := by
    have := m.nest_tokens [] [] []
    rw [List.append_nil] at this
    exact this
  obtain ⟨name, attrs, children, hnode⟩ :
      ∃ name attrs children, m.node = .elem name attrs children := by
    cases m <;> exact ⟨_, _, _, rfl⟩
  rw [parse, hdoc, normalizeLines_eq_self (m.cr_not_mem_write h), hscan]
  simp only [hnest]
  rw [hnode]
  rfl

-- ---------------------------------------------------------------------------
-- Strings that XML can write
-- ---------------------------------------------------------------------------

/-- Every character is one of XML 1.0. -/
def isText (s : String) : Bool := s.toList.all isChar

theorem clean_eq_self {s : String} (h : isText s = true) : clean s = s := by
  have hmap : s.toList.map cleanChar = s.toList := by
    have hsame : ∀ c ∈ s.toList, cleanChar c = c := fun c hc =>
      if_pos (List.all_eq_true.mp h c hc)
    rw [List.map_congr_left hsame, List.map_id']
  rw [clean, hmap, String.ofList_toList]

end Xml
