import Mathlib.Data.List.Basic
import Mathlib.Data.List.Infix

/-!
# JSON as text

JSON documents as lists of characters. `Syn` is the concrete syntax: a tree
for every text that the grammar derives, white space and escapes included, so
that what is valid is what is the `text` of a tree. The value a text denotes
is taken in an arbitrary `Interp`.

`parseValue` is a recursive-descent parser, which also returns the source
text of every object member.
-/

namespace JsonText

-- ---------------------------------------------------------------------------
-- Lexical elements
-- ---------------------------------------------------------------------------

/-- White space between tokens. -/
def isBlank (c : Char) : Bool := c == ' ' || c == '\t' || c == '\n' || c == '\r'

structure Space where
  chars : List Char
  blank : chars.all isBlank = true

def Space.none : Space := ⟨[], rfl⟩

/-- The characters that stand for themselves in a string. -/
def isPlain (c : Char) : Bool := decide (0x20 ≤ c.toNat) && c != '"' && c != '\\'

def hexVal (c : Char) : Option Nat :=
  if '0' ≤ c ∧ c ≤ '9' then some (c.toNat - 48)
  else if 'a' ≤ c ∧ c ≤ 'f' then some (c.toNat - 87)
  else if 'A' ≤ c ∧ c ≤ 'F' then some (c.toNat - 55)
  else none

structure Hex where
  char : Char
  isHex : (hexVal char).isSome = true

def Hex.val (h : Hex) : Nat := (hexVal h.char).getD 0

/-- The lower-case digit of a number below 16. -/
def Hex.ofNat : Nat → Hex
  | 0 => ⟨'0', rfl⟩
  | 1 => ⟨'1', rfl⟩
  | 2 => ⟨'2', rfl⟩
  | 3 => ⟨'3', rfl⟩
  | 4 => ⟨'4', rfl⟩
  | 5 => ⟨'5', rfl⟩
  | 6 => ⟨'6', rfl⟩
  | 7 => ⟨'7', rfl⟩
  | 8 => ⟨'8', rfl⟩
  | 9 => ⟨'9', rfl⟩
  | 10 => ⟨'a', rfl⟩
  | 11 => ⟨'b', rfl⟩
  | 12 => ⟨'c', rfl⟩
  | 13 => ⟨'d', rfl⟩
  | 14 => ⟨'e', rfl⟩
  | _ => ⟨'f', rfl⟩

/-- The escapes of one letter. -/
inductive Escape where
  | quote | backslash | slash | b | f | n | r | t
  deriving DecidableEq

def Escape.letter : Escape → Char
  | .quote => '"'
  | .backslash => '\\'
  | .slash => '/'
  | .b => 'b'
  | .f => 'f'
  | .n => 'n'
  | .r => 'r'
  | .t => 't'

/-- The character an escape stands for. -/
def Escape.char : Escape → Char
  | .quote => '"'
  | .backslash => '\\'
  | .slash => '/'
  | .b => '\x08'
  | .f => '\x0c'
  | .n => '\n'
  | .r => '\r'
  | .t => '\t'

def Escape.ofLetter (c : Char) : Option Escape :=
  if c = '"' then some .quote
  else if c = '\\' then some .backslash
  else if c = '/' then some .slash
  else if c = 'b' then some .b
  else if c = 'f' then some .f
  else if c = 'n' then some .n
  else if c = 'r' then some .r
  else if c = 't' then some .t
  else none

/-- One item of a string literal. -/
inductive Piece where
  | plain (c : Char) (h : isPlain c = true)
  | esc (e : Escape)
  | unicode (h₁ h₂ h₃ h₄ : Hex)

def Piece.text : Piece → List Char
  | .plain c _ => [c]
  | .esc e => ['\\', e.letter]
  | .unicode h₁ h₂ h₃ h₄ => ['\\', 'u', h₁.char, h₂.char, h₃.char, h₄.char]

/-- The UTF-16 code unit of a `\u` escape. -/
def codeUnit (h₁ h₂ h₃ h₄ : Hex) : Nat := ((h₁.val * 16 + h₂.val) * 16 + h₃.val) * 16 + h₄.val

def isSurrogate (n : Nat) : Bool := decide (0xD800 ≤ n ∧ n < 0xE000)

/-- The character of a surrogate pair. -/
def decodePair (hi lo : Nat) : Option Char :=
  if 0xD800 ≤ hi ∧ hi < 0xDC00 ∧ 0xDC00 ≤ lo ∧ lo < 0xE000 then
    some (Char.ofNat (0x10000 + (hi - 0xD800) * 0x400 + (lo - 0xDC00)))
  else none

/-- A surrogate that turned out not to be half of a pair. -/
def lone (hi : Option Nat) : List Char := if hi.isSome then ['\ufffd'] else []

/-- The characters of the pieces, after a surrogate that may begin a pair. -/
def decodeFrom : Option Nat → List Piece → List Char
  | hi, [] => lone hi
  | hi, .plain c _ :: ps => lone hi ++ c :: decodeFrom none ps
  | hi, .esc e :: ps => lone hi ++ e.char :: decodeFrom none ps
  | hi, .unicode h₁ h₂ h₃ h₄ :: ps =>
    match hi.bind fun n => decodePair n (codeUnit h₁ h₂ h₃ h₄) with
    | some c => c :: decodeFrom none ps
    | none => lone hi ++
        if isSurrogate (codeUnit h₁ h₂ h₃ h₄) then decodeFrom (some (codeUnit h₁ h₂ h₃ h₄)) ps
        else Char.ofNat (codeUnit h₁ h₂ h₃ h₄) :: decodeFrom none ps

/-- The string a literal stands for. -/
def decode (ps : List Piece) : List Char := decodeFrom none ps

def isDigit (c : Char) : Bool := decide ('0' ≤ c ∧ c ≤ '9')

/-- The characters of number literals. -/
def isNumChar (c : Char) : Bool :=
  isDigit c || c == '-' || c == '+' || c == '.' || c == 'e' || c == 'E'

/-- Nothing, or an exponent. -/
def isExponent : List Char → Bool
  | [] => true
  | e :: cs =>
    let cs := match cs with
      | '+' :: cs => cs
      | '-' :: cs => cs
      | cs => cs
    (e == 'e' || e == 'E') && !cs.isEmpty && cs.all isDigit

/-- Nothing, or a fraction and then an exponent. -/
def isFraction : List Char → Bool
  | '.' :: c :: cs => isDigit c && isExponent (cs.dropWhile isDigit)
  | cs => isExponent cs

def isUnsigned : List Char → Bool
  | '0' :: cs => isFraction cs
  | c :: cs => isDigit c && isFraction (cs.dropWhile isDigit)
  | [] => false

/-- The literal is a number of the grammar. -/
def isNumber (cs : List Char) : Bool :=
  cs.all isNumChar && match cs with
    | '-' :: cs => isUnsigned cs
    | cs => isUnsigned cs

structure Number where
  lit : List Char
  ok : isNumber lit = true

-- ---------------------------------------------------------------------------
-- Concrete syntax
-- ---------------------------------------------------------------------------

inductive Kind where
  | value
  /-- the elements of an array, with the closing bracket -/
  | elems
  /-- the members of an object, with the closing brace -/
  | members

/-- What stands before the value of a member. -/
structure Key where
  before : Space
  name : List Piece
  after : Space
  afterColon : Space

/-- The texts of the grammar, as trees. -/
inductive Syn : Kind → Type where
  | null : Syn .value
  | bool (b : Bool) : Syn .value
  | num (n : Number) : Syn .value
  | str (ps : List Piece) : Syn .value
  | emptyArr (w : Space) : Syn .value
  | arr (es : Syn .elems) : Syn .value
  | emptyObj (w : Space) : Syn .value
  | obj (ms : Syn .members) : Syn .value
  | lastElem (w : Space) (v : Syn .value) (w' : Space) : Syn .elems
  | elem (w : Space) (v : Syn .value) (w' : Space) (rest : Syn .elems) : Syn .elems
  | lastMember (k : Key) (v : Syn .value) (w : Space) : Syn .members
  | member (k : Key) (v : Syn .value) (w : Space) (rest : Syn .members) : Syn .members

/-- The text of a string literal after its opening quote. -/
def literal (ps : List Piece) : List Char := ps.flatMap Piece.text ++ ['"']

def Key.text (k : Key) : List Char :=
  k.before.chars ++ '"' :: literal k.name ++ k.after.chars ++ ':' :: k.afterColon.chars

def boolText (b : Bool) : List Char := if b then "true".toList else "false".toList

def Syn.text : {k : Kind} → Syn k → List Char
  | _, .null => "null".toList
  | _, .bool b => boolText b
  | _, .num n => n.lit
  | _, .str ps => '"' :: literal ps
  | _, .emptyArr w => '[' :: w.chars ++ [']']
  | _, .arr es => '[' :: es.text
  | _, .emptyObj w => '{' :: w.chars ++ ['}']
  | _, .obj ms => '{' :: ms.text
  | _, .lastElem w v w' => w.chars ++ v.text ++ w'.chars ++ [']']
  | _, .elem w v w' rest => w.chars ++ v.text ++ w'.chars ++ ',' :: rest.text
  | _, .lastMember k v w => k.text ++ v.text ++ w.chars ++ ['}']
  | _, .member k v w rest => k.text ++ v.text ++ w.chars ++ ',' :: rest.text

theorem Syn.text_emptyArr (w : Space) (cs : List Char) :
    (Syn.emptyArr w).text ++ cs = '[' :: (w.chars ++ ']' :: cs) := by
  simp [Syn.text]

/-- A value with white space around it. -/
structure Document where
  before : Space
  value : Syn .value
  after : Space

def Document.text (d : Document) : List Char := d.before.chars ++ d.value.text ++ d.after.chars

-- ---------------------------------------------------------------------------
-- Values
-- ---------------------------------------------------------------------------

/-- How values are made. -/
structure Interp (ν : Type*) where
  null : ν
  bool : Bool → ν
  num : List Char → ν
  str : List Char → ν
  arr : List ν → ν
  obj : List (List Char × ν) → ν

variable {ν : Type}

/-- A member of an object, with the source text of its value. -/
structure Member (ν : Type) where
  name : List Char
  raw : List Char
  value : ν

def Member.pair (m : Member ν) : List Char × ν := (m.name, m.value)

/-- What the trees of each kind denote. -/
def Sem (ν : Type) : Kind → Type
  | .value => ν
  | .elems => List ν
  | .members => List (Member ν)

def Syn.sem (A : Interp ν) : {k : Kind} → Syn k → Sem ν k
  | _, .null => A.null
  | _, .bool b => A.bool b
  | _, .num n => A.num n.lit
  | _, .str ps => A.str (decode ps)
  | _, .emptyArr _ => A.arr []
  | _, .arr es => A.arr (es.sem A)
  | _, .emptyObj _ => A.obj []
  | _, .obj ms => A.obj ((ms.sem A).map Member.pair)
  | _, .lastElem _ v _ => [v.sem A]
  | _, .elem _ v _ rest => List.cons (α := ν) (v.sem A) (rest.sem A)
  | _, .lastMember k v _ => [⟨decode k.name, v.text, v.sem A⟩]
  | _, .member k v _ rest =>
    List.cons (α := Member ν) ⟨decode k.name, v.text, v.sem A⟩ (rest.sem A)

/-- The document is the text, and denotes the value. -/
def Denotes (A : Interp ν) (t : List Char) (v : ν) : Prop :=
  ∃ d : Document, d.text = t ∧ d.value.sem A = v

-- ---------------------------------------------------------------------------
-- The parser
-- ---------------------------------------------------------------------------

def skip (cs : List Char) : List Char := cs.dropWhile isBlank

/-- A string literal, after its opening quote. -/
def parsePieces : List Char → Option (List Piece × List Char)
  | [] => none
  | c :: cs =>
    if c = '"' then some ([], cs)
    else if c = '\\' then
      match cs with
      | [] => none
      | e :: cs =>
        if e = 'u' then
          match cs with
          | h₁ :: h₂ :: h₃ :: h₄ :: cs =>
            if h : ((hexVal h₁).isSome ∧ (hexVal h₂).isSome) ∧
                (hexVal h₃).isSome ∧ (hexVal h₄).isSome
            then (parsePieces cs).map fun r =>
              (.unicode ⟨h₁, h.1.1⟩ ⟨h₂, h.1.2⟩ ⟨h₃, h.2.1⟩ ⟨h₄, h.2.2⟩ :: r.1, r.2)
            else none
          | _ => none
        else (Escape.ofLetter e).bind fun e =>
          (parsePieces cs).map fun r => (.esc e :: r.1, r.2)
    else if h : isPlain c = true then
      (parsePieces cs).map fun r => (.plain c h :: r.1, r.2)
    else none
termination_by structural cs => cs

/-- The rest of a keyword. -/
def parseKeyword (keyword : String) (v : ν) (cs : List Char) : Option (ν × List Char) :=
  if keyword.toList.isPrefixOf cs then some (v, cs.drop keyword.toList.length) else none

def parseNumber (A : Interp ν) (cs : List Char) : Option (ν × List Char) :=
  if isNumber (cs.takeWhile isNumChar) then
    some (A.num (cs.takeWhile isNumChar), cs.dropWhile isNumChar)
  else none

mutual

/-- A value, and what follows it. The first argument bounds the recursion. -/
def parseValue (A : Interp ν) : Nat → List Char → Option (ν × List Char)
  | 0, _ => none
  | _ + 1, [] => none
  | n + 1, c :: cs =>
    if c = '"' then (parsePieces cs).map fun r => (A.str (decode r.1), r.2)
    else if c = '[' then
      match skip cs with
      | ']' :: rest => some (A.arr [], rest)
      | cs => (parseElems A n cs).map fun r => (A.arr r.1, r.2)
    else if c = '{' then
      match skip cs with
      | '}' :: rest => some (A.obj [], rest)
      | cs => (parseMembers A n cs).map fun r => (A.obj (r.1.map Member.pair), r.2)
    else if c = 'n' then parseKeyword "ull" A.null cs
    else if c = 't' then parseKeyword "rue" (A.bool true) cs
    else if c = 'f' then parseKeyword "alse" (A.bool false) cs
    else parseNumber A (c :: cs)

/-- The elements of an array from the first on, and the closing bracket. -/
def parseElems (A : Interp ν) : Nat → List Char → Option (List ν × List Char)
  | 0, _ => none
  | n + 1, cs => (parseValue A n cs).bind fun (v, cs) =>
    match skip cs with
    | ',' :: cs => (parseElems A n (skip cs)).map fun r => (v :: r.1, r.2)
    | ']' :: rest => some ([v], rest)
    | _ => none

/-- The members of an object from the first on, and the closing brace. -/
def parseMembers (A : Interp ν) : Nat → List Char → Option (List (Member ν) × List Char)
  | n + 1, '"' :: cs => (parsePieces cs).bind fun (ps, cs) =>
    match skip cs with
    | ':' :: cs => (parseValue A n (skip cs)).bind fun (v, rest) =>
      let field : Member ν :=
        ⟨decode ps, (skip cs).take ((skip cs).length - rest.length), v⟩
      match skip rest with
      | ',' :: cs => (parseMembers A n (skip cs)).map fun r => (field :: r.1, r.2)
      | '}' :: rest => some ([field], rest)
      | _ => none
    | _ => none
  | _, _ => none

end

/-- A whole document. -/
def parse (A : Interp ν) (cs : List Char) : Option ν :=
  (parseValue A cs.length (skip cs)).bind fun (v, rest) =>
    if (skip rest).isEmpty then some v else none

theorem parse_nil (A : Interp ν) : parse A [] = none := by
  simp [parse, parseValue]

/-- The members of a document that is an object. -/
def parseFields (A : Interp ν) (cs : List Char) : Option (List (Member ν)) :=
  match skip cs with
  | '{' :: cs => match skip cs with
    | '}' :: rest => if (skip rest).isEmpty then some [] else none
    | start => (parseMembers A cs.length start).bind fun (fields, rest) =>
      if (skip rest).isEmpty then some fields else none
  | _ => none

end JsonText
