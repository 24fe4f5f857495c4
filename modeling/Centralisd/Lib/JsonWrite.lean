import Centralisd.Lib.JsonCompact

/-!
# JSON as text — numbers, arrays and documents

* `numeral` writes a decimal number, and is a number of the grammar
  (`isNumber_numeral`).
* `ofElems` and `ofFields` are the trees of an array and an object without
  white space.
* `parseFields_document` — the members of any document that is an object are
  read with their source texts, and each of these texts denotes its value
  (`Syn.members_denote`).
-/

namespace JsonText

variable {ν : Type} {A : Interp ν}

-- ---------------------------------------------------------------------------
-- Numbers
-- ---------------------------------------------------------------------------

theorem isDigit_toDigits {n : Nat} {c : Char} (h : c ∈ Nat.toDigits 10 n) : isDigit c = true := by
  have hdigit := Nat.isDigit_of_mem_toDigits (by decide) (by decide) h
  rw [Char.isDigit, Bool.and_eq_true, decide_eq_true_eq, decide_eq_true_eq] at hdigit
  rw [isDigit, decide_eq_true_eq]
  exact hdigit

/-- Only zero is written with a leading zero. -/
theorem toDigits_head (n : Nat) : ∃ c cs, Nat.toDigits 10 n = c :: cs ∧ (c = '0' → n = 0) := by
  induction n using Nat.strong_induction_on with
  | _ n ih =>
    by_cases hn : n < 10
    · have hdigit : ∀ d, d < 10 → Nat.digitChar d = '0' → d = 0 := by decide
      exact ⟨_, _, Nat.toDigits_of_lt_base hn, hdigit n hn⟩
    · obtain ⟨c, cs, hcs, hc⟩ := ih (n / 10) (by omega)
      refine ⟨c, cs ++ [Nat.digitChar (n % 10)], ?_, fun h => ?_⟩
      · rw [Nat.toDigits_of_base_le (by decide) (by omega), hcs]
        rfl
      · have hzero := hc h
        omega

/-- The exponent of a number, none for an integer. -/
def exponent (e : Nat) : List Char := if e = 0 then [] else 'e' :: '-' :: Nat.toDigits 10 e

/-- The number `m · 10 ^ (-e)`. -/
def numeral (m : Int) (e : Nat) : List Char :=
  (if m < 0 then ['-'] else []) ++ (Nat.toDigits 10 m.natAbs ++ exponent e)

theorem isFraction_exponent (e : Nat) : isFraction (exponent e) = true := by
  unfold exponent
  split
  · rfl
  · show isExponent ('e' :: '-' :: Nat.toDigits 10 e) = true
    have hall : (Nat.toDigits 10 e).all isDigit = true :=
      List.all_eq_true.mpr fun c hc => isDigit_toDigits hc
    simp [isExponent, hall, Nat.toDigits_ne_nil]

theorem dropWhile_exponent (e : Nat) : (exponent e).dropWhile isDigit = exponent e := by
  unfold exponent
  split
  · rfl
  · exact List.dropWhile_cons_of_neg (by decide)

theorem isUnsigned_toDigits (n e : Nat) : isUnsigned (Nat.toDigits 10 n ++ exponent e) = true := by
  obtain ⟨c, cs, hcs, hzero⟩ := toDigits_head n
  have hdigits : ∀ d ∈ c :: cs, isDigit d = true := fun d hd => isDigit_toDigits (hcs ▸ hd)
  by_cases hc : c = '0'
  · have hn : Nat.toDigits 10 n = ['0'] := by
      rw [hzero hc]
      rfl
    rw [hn]
    exact isFraction_exponent e
  · have hdrop : (cs ++ exponent e).dropWhile isDigit = exponent e := by
      rw [List.dropWhile_append_of_pos fun d hd => hdigits d (List.mem_cons_of_mem c hd),
        dropWhile_exponent]
    rw [hcs, List.cons_append, isUnsigned]
    · rw [hdrop, isFraction_exponent, hdigits c List.mem_cons_self]
      rfl
    · exact hc

theorem isNumChar_of_isDigit {c : Char} (h : isDigit c = true) : isNumChar c = true := by
  simp [isNumChar, h]

theorem numeral_isNumChar (m : Int) (e : Nat) : ∀ c ∈ numeral m e, isNumChar c = true := by
  intro c hc
  unfold numeral exponent at hc
  rw [List.mem_append, List.mem_append] at hc
  rcases hc with hc | hc | hc
  · split at hc
    · rw [List.mem_singleton.mp hc]
      decide
    · exact absurd hc List.not_mem_nil
  · exact isNumChar_of_isDigit (isDigit_toDigits hc)
  · split at hc
    · exact absurd hc List.not_mem_nil
    · rcases List.mem_cons.mp hc with rfl | hc
      · decide
      · rcases List.mem_cons.mp hc with rfl | hc
        · decide
        · exact isNumChar_of_isDigit (isDigit_toDigits hc)

theorem isNumber_numeral (m : Int) (e : Nat) : isNumber (numeral m e) = true := by
  have hall : (numeral m e).all isNumChar = true := List.all_eq_true.mpr (numeral_isNumChar m e)
  have hunsigned := isUnsigned_toDigits m.natAbs e
  unfold isNumber
  rw [hall, Bool.true_and]
  unfold numeral
  by_cases hm : m < 0
  · rw [if_pos hm]
    exact hunsigned
  · rw [if_neg hm, List.nil_append]
    obtain ⟨c, cs, hcs, -⟩ := toDigits_head m.natAbs
    have hc : isDigit c = true := isDigit_toDigits (hcs ▸ List.mem_cons_self)
    have hminus : c ≠ '-' := by
      rintro rfl
      exact absurd hc (by decide)
    rw [hcs, List.cons_append] at hunsigned ⊢
    split
    · next heq => exact absurd (List.cons.inj heq).1 hminus
    · exact hunsigned

def Number.ofInt (m : Int) (e : Nat) : Number := ⟨numeral m e, isNumber_numeral m e⟩

-- ---------------------------------------------------------------------------
-- Arrays and objects
-- ---------------------------------------------------------------------------

/-- The elements of an array without white space. -/
def ofElems : Syn .value → List (Syn .value) → Syn .elems
  | v, [] => .lastElem .none v .none
  | v, v' :: vs => .elem .none v .none (ofElems v' vs)

theorem sem_ofElems (A : Interp ν) (v : Syn .value) (vs : List (Syn .value)) :
    (ofElems v vs).sem A = (v :: vs).map fun v => (v.sem A : ν) := by
  induction vs generalizing v with
  | nil => rfl
  | cons v' vs ih => exact congrArg (List.cons (α := ν) (v.sem A)) (ih v')

def ofArray : List (Syn .value) → Syn .value
  | [] => .emptyArr .none
  | v :: vs => .arr (ofElems v vs)

def ofFields : List (List Char × Syn .value) → Syn .value
  | [] => .emptyObj .none
  | m :: ms => .obj (ofMembers m ms)

theorem sem_ofArray (A : Interp ν) (vs : List (Syn .value)) :
    (ofArray vs).sem A = A.arr (vs.map fun v => v.sem A) := by
  cases vs with
  | nil => rfl
  | cons v vs => exact congrArg A.arr (sem_ofElems A v vs)

theorem sem_ofFields (A : Interp ν) (ms : List (List Char × Syn .value)) :
    (ofFields ms).sem A = A.obj (ms.map fun m => (m.1, m.2.sem A)) := by
  cases ms with
  | nil => rfl
  | cons m ms =>
    show A.obj (((ofMembers m ms).sem A).map Member.pair) = _
    rw [sem_ofMembers, List.map_map]
    rfl

/-- A written object is the text of its tree. -/
theorem text_ofFields (m : List Char × Syn .value) (ms : List (List Char × Syn .value)) :
    encodeMembers '{' ((m :: ms).map fun m => (m.1, m.2.text)) = (ofFields (m :: ms)).text :=
  encodeMembers_eq m ms '{'

theorem Syn.denotes_text (A : Interp ν) (v : Syn .value) : Denotes A v.text (v.sem A) := by
  refine ⟨⟨.none, v, .none⟩, ?_, rfl⟩
  simp [Document.text, Space.none]

-- ---------------------------------------------------------------------------
-- Documents that are objects
-- ---------------------------------------------------------------------------

/-- The members of a value, if it is an object. -/
def Syn.fields (A : Interp ν) : Syn .value → Option (List (Member ν))
  | .obj ms => some (ms.sem A)
  | .emptyObj _ => some []
  | _ => none

/-- The source text of a member denotes its value. -/
theorem Syn.members_denote (A : Interp ν) :
    (ms : Syn .members) → (fields : List (Member ν)) → ms.sem A = fields →
      ∀ m ∈ fields, Denotes A m.raw m.value
  | .lastMember k v w, fields, hfields => by
    subst hfields
    intro m hm
    obtain rfl := List.mem_singleton.mp hm
    exact v.denotes_text A
  | .member k v w rest, fields, hfields => by
    subst hfields
    intro m hm
    rcases List.mem_cons.mp hm with rfl | hm
    · exact v.denotes_text A
    · exact members_denote A rest _ rfl m hm

theorem Syn.fields_eq_some {v : Syn .value} {fields : List (Member ν)}
    (h : v.fields A = some fields) :
    (∃ ms, v = .obj ms ∧ ms.sem A = fields) ∨ ∃ w, v = .emptyObj w ∧ [] = fields := by
  cases v with
  | obj ms => exact .inl ⟨ms, rfl, Option.some.inj h⟩
  | emptyObj w => exact .inr ⟨w, rfl, Option.some.inj h⟩
  | null => exact absurd h (by simp [Syn.fields])
  | bool b => exact absurd h (by simp [Syn.fields])
  | num n => exact absurd h (by simp [Syn.fields])
  | str ps => exact absurd h (by simp [Syn.fields])
  | emptyArr w => exact absurd h (by simp [Syn.fields])
  | arr es => exact absurd h (by simp [Syn.fields])

theorem Syn.fields_denote {v : Syn .value} {fields : List (Member ν)}
    (h : v.fields A = some fields) : ∀ m ∈ fields, Denotes A m.raw m.value := by
  rcases Syn.fields_eq_some h with ⟨ms, -, hms⟩ | ⟨w, -, rfl⟩
  · exact ms.members_denote A fields hms
  · exact List.forall_mem_nil _

theorem Syn.sem_of_fields {v : Syn .value} {fields : List (Member ν)}
    (h : v.fields A = some fields) : v.sem A = A.obj (fields.map Member.pair) := by
  rcases Syn.fields_eq_some h with ⟨ms, rfl, hms⟩ | ⟨w, rfl, rfl⟩
  · subst hms
    rfl
  · rfl

/-- A text that does not begin with a brace is no object. -/
theorem parseFields_of_ne {c : Char} {cs t : List Char} (hskip : skip t = c :: cs) (hc : c ≠ '{') :
    parseFields A t = none := by
  rw [parseFields, hskip]
  split
  · next heq => exact absurd (List.cons.inj heq).1 hc
  · rfl

/-- The members of a document are read with their source texts. -/
theorem parseFields_document (A : Interp ν) (d : Document) :
    parseFields A d.text = d.value.fields A := by
  have hskip : skip d.text = d.value.text ++ d.after.chars := by
    rw [Document.text, List.append_assoc, skip_space, Syn.skip_text]
  obtain ⟨w, v, w'⟩ := d
  cases v with
  | obj ms =>
    have hreads := ms.reads A (ms.text ++ w'.chars).length w'.chars (by simp)
    exact parseFields_of_parseMembers hskip (ms.members_opens w'.chars) hreads
  | emptyObj w₀ =>
    have hskip' : skip (Document.text ⟨w, .emptyObj w₀, w'⟩) =
        '{' :: (w₀.chars ++ '}' :: w'.chars) := by
      rw [hskip, Syn.text_emptyObj]
    rw [parseFields, hskip']
    simp only [skip_space_cons w₀ (show isBlank '}' = false by decide), skip_chars]
    rfl
  | null => exact parseFields_of_ne (c := 'n') hskip (by decide)
  | bool b =>
    cases b with
    | true => exact parseFields_of_ne (c := 't') hskip (by decide)
    | false => exact parseFields_of_ne (c := 'f') hskip (by decide)
  | num n =>
    obtain ⟨c, cs, hcs⟩ := n.exists_cons
    have hc : isNumChar c = true := n.isNumChar c (hcs ▸ List.mem_cons_self)
    have hskip' : skip (Document.text ⟨w, .num n, w'⟩) = c :: (cs ++ w'.chars) := by
      rw [hskip]
      show n.lit ++ _ = _
      rw [hcs, List.cons_append]
    refine parseFields_of_ne hskip' ?_
    rintro rfl
    exact absurd hc (by decide)
  | str ps => exact parseFields_of_ne (c := '"') hskip (by decide)
  | emptyArr w₀ => exact parseFields_of_ne (c := '[') hskip (by decide)
  | arr es => exact parseFields_of_ne (c := '[') hskip (by decide)

end JsonText
