import Centralisd.Lib.JsonText

/-!
# JSON as text — the parser reads every tree

`Syn.reads` is completeness: on the text of any tree, with fuel for its
length, the parser returns what the tree denotes and stops right after it.
So a text denotes at most one value, and it is the one `parse` finds
(`Denotes.parse_eq`). A number ends where no further number character
follows; this is the one condition on the rest of the input (`NoNum`).
-/

namespace JsonText

variable {ν : Type}

-- ---------------------------------------------------------------------------
-- Texts, bracketed to the right
-- ---------------------------------------------------------------------------

theorem Key.text_append (k : Key) (cs : List Char) :
    k.text ++ cs = k.before.chars ++
      '"' :: (literal k.name ++ (k.after.chars ++ ':' :: (k.afterColon.chars ++ cs))) := by
  simp [Key.text]

theorem literal_cons_append (p : Piece) (ps : List Piece) (cs : List Char) :
    literal (p :: ps) ++ cs = p.text ++ (literal ps ++ cs) := by
  simp [literal]

theorem Syn.text_emptyObj (w : Space) (cs : List Char) :
    (Syn.emptyObj w).text ++ cs = '{' :: (w.chars ++ '}' :: cs) := by
  simp [Syn.text]

theorem Syn.text_lastElem (w : Space) (v : Syn .value) (w' : Space) (cs : List Char) :
    (Syn.lastElem w v w').text ++ cs = w.chars ++ (v.text ++ (w'.chars ++ ']' :: cs)) := by
  simp [Syn.text]

theorem Syn.text_elem (w : Space) (v : Syn .value) (w' : Space) (es : Syn .elems)
    (cs : List Char) :
    (Syn.elem w v w' es).text ++ cs =
      w.chars ++ (v.text ++ (w'.chars ++ ',' :: (es.text ++ cs))) := by
  simp [Syn.text]

theorem Syn.text_lastMember (k : Key) (v : Syn .value) (w : Space) (cs : List Char) :
    (Syn.lastMember k v w).text ++ cs = k.text ++ (v.text ++ (w.chars ++ '}' :: cs)) := by
  simp [Syn.text]

theorem Syn.text_member (k : Key) (v : Syn .value) (w : Space) (ms : Syn .members)
    (cs : List Char) :
    (Syn.member k v w ms).text ++ cs =
      k.text ++ (v.text ++ (w.chars ++ ',' :: (ms.text ++ cs))) := by
  simp [Syn.text]

-- ---------------------------------------------------------------------------
-- White space, strings and numbers
-- ---------------------------------------------------------------------------

@[simp] theorem skip_space (w : Space) (cs : List Char) : skip (w.chars ++ cs) = skip cs :=
  List.dropWhile_append_of_pos (List.all_eq_true.mp w.blank)

theorem skip_cons {c : Char} {cs : List Char} (h : isBlank c = false) : skip (c :: cs) = c :: cs :=
  List.dropWhile_cons_of_neg (by simp [h])

/-- White space before a token. -/
theorem skip_space_cons (w : Space) {c : Char} (h : isBlank c = false) (cs : List Char) :
    skip (w.chars ++ c :: cs) = c :: cs := by
  rw [skip_space, skip_cons h]

theorem skip_chars (w : Space) : skip w.chars = [] := by
  have h := skip_space w []
  rwa [List.append_nil] at h

@[simp] theorem Escape.ofLetter_letter (e : Escape) : Escape.ofLetter e.letter = some e := by
  cases e <;> rfl

theorem Escape.letter_ne_u (e : Escape) : e.letter ≠ 'u' := by
  cases e <;> decide

theorem parsePieces_literal (ps : List Piece) (rest : List Char) :
    parsePieces (literal ps ++ rest) = some (ps, rest) := by
  induction ps with
  | nil =>
    show parsePieces ('"' :: rest) = _
    rw [parsePieces.eq_def]
    rfl
  | cons p ps ih =>
    rw [literal_cons_append]
    cases p with
    | plain c h =>
      have hc : c ≠ '"' ∧ c ≠ '\\' := by
        simp only [isPlain, Bool.and_eq_true, bne_iff_ne, ne_eq] at h
        exact ⟨h.1.2, h.2⟩
      show parsePieces (c :: (literal ps ++ rest)) = _
      rw [parsePieces.eq_def]
      simp only [if_neg hc.1, if_neg hc.2, dif_pos h, ih]
      rfl
    | esc e =>
      show parsePieces ('\\' :: e.letter :: (literal ps ++ rest)) = _
      rw [parsePieces.eq_def]
      -- no escape of one letter begins as a code unit does
      simp only [if_neg (show ¬ '\\' = '"' by decide), if_true, if_neg e.letter_ne_u,
        Escape.ofLetter_letter, Option.bind_some, ih]
      rfl
    | unicode h₁ h₂ h₃ h₄ =>
      show parsePieces ('\\' :: 'u' :: h₁.char :: h₂.char :: h₃.char :: h₄.char ::
        (literal ps ++ rest)) = _
      rw [parsePieces.eq_def]
      simp only [if_neg (show ¬ '\\' = '"' by decide), if_true,
        dif_pos (show ((hexVal h₁.char).isSome ∧ (hexVal h₂.char).isSome) ∧
          (hexVal h₃.char).isSome ∧ (hexVal h₄.char).isSome from
          ⟨⟨h₁.isHex, h₂.isHex⟩, h₃.isHex, h₄.isHex⟩), ih]
      rfl

/-- No number goes on into the text. -/
def NoNum (cs : List Char) : Prop := ∀ c ∈ cs.head?, isNumChar c = false

theorem isNumChar_blank {c : Char} (h : isBlank c = true) : isNumChar c = false := by
  simp only [isBlank, Bool.or_eq_true, beq_iff_eq] at h
  rcases h with ((rfl | rfl) | rfl) | rfl <;> decide

theorem noNum_space (w : Space) {cs : List Char} (h : NoNum cs) : NoNum (w.chars ++ cs) := by
  obtain ⟨ws, hws⟩ := w
  cases ws with
  | nil => exact h
  | cons b ws =>
    intro c hc
    obtain rfl : b = c := by simpa using hc
    exact isNumChar_blank (List.all_eq_true.mp hws b (List.mem_cons_self ..))

theorem noNum_cons {c : Char} (h : isNumChar c = false) (cs : List Char) : NoNum (c :: cs) := by
  intro d hd
  obtain rfl : c = d := by simpa using hd
  exact h

theorem takeWhile_number {lit rest : List Char} (h : ∀ c ∈ lit, isNumChar c = true)
    (hrest : NoNum rest) : (lit ++ rest).takeWhile isNumChar = lit := by
  rw [List.takeWhile_append_of_pos h]
  cases rest with
  | nil => simp
  | cons c cs => simp [List.takeWhile_cons_of_neg, hrest c rfl]

theorem dropWhile_number {lit rest : List Char} (h : ∀ c ∈ lit, isNumChar c = true)
    (hrest : NoNum rest) : (lit ++ rest).dropWhile isNumChar = rest := by
  rw [List.dropWhile_append_of_pos h]
  cases rest with
  | nil => rfl
  | cons c cs => exact List.dropWhile_cons_of_neg (by simp [hrest c rfl])

theorem Number.isNumChar (n : Number) : ∀ c ∈ n.lit, isNumChar c = true := by
  have h := n.ok
  unfold isNumber at h
  rw [Bool.and_eq_true, List.all_eq_true] at h
  exact h.1

theorem Number.exists_cons (n : Number) : ∃ c cs, n.lit = c :: cs := by
  have h := n.ok
  cases hn : n.lit with
  | nil =>
    rw [hn] at h
    exact absurd h (by decide)
  | cons c cs => exact ⟨c, cs, rfl⟩

/-- A character that begins a value. -/
def Opens (c : Char) : Prop := isBlank c = false ∧ c ≠ ']' ∧ c ≠ '}'

theorem opens_numChar {c : Char} (h : isNumChar c = true) : Opens c := by
  refine ⟨?_, ?_, ?_⟩
  · by_contra hb
    rw [isNumChar_blank (by simpa using hb)] at h
    exact Bool.false_ne_true h
  · rintro rfl
    exact absurd h (by decide)
  · rintro rfl
    exact absurd h (by decide)

theorem Syn.text_opens (v : Syn .value) : ∃ c cs, v.text = c :: cs ∧ Opens c := by
  cases v with
  | num n =>
    obtain ⟨c, cs, hc⟩ := n.exists_cons
    exact ⟨c, cs, hc, opens_numChar (n.isNumChar c (hc ▸ List.mem_cons_self ..))⟩
  | bool b => cases b <;> exact ⟨_, _, rfl, by decide, by decide, by decide⟩
  | null => exact ⟨_, _, rfl, by decide, by decide, by decide⟩
  | str => exact ⟨_, _, rfl, by decide, by decide, by decide⟩
  | emptyArr => exact ⟨_, _, rfl, by decide, by decide, by decide⟩
  | arr => exact ⟨_, _, rfl, by decide, by decide, by decide⟩
  | emptyObj => exact ⟨_, _, rfl, by decide, by decide, by decide⟩
  | obj => exact ⟨_, _, rfl, by decide, by decide, by decide⟩

theorem Syn.skip_text (v : Syn .value) (cs : List Char) : skip (v.text ++ cs) = v.text ++ cs := by
  obtain ⟨c, tail, htext, hopens⟩ := v.text_opens
  rw [htext, List.cons_append, skip_cons hopens.1]

-- ---------------------------------------------------------------------------
-- The parser reads every tree
-- ---------------------------------------------------------------------------

/-- The parser reads the tree, given fuel for the length of its text. The
parsers of elements and members start where white space has been skipped. -/
def Syn.Reads (A : Interp ν) : {k : Kind} → Syn k → Prop
  | .value, v => ∀ n rest, v.text.length ≤ n → NoNum rest →
      parseValue A n (v.text ++ rest) = some (v.sem A, rest)
  | .elems, es => ∀ n rest, es.text.length ≤ n →
      parseElems A n (skip (es.text ++ rest)) = some (es.sem A, rest)
  | .members, ms => ∀ n rest, ms.text.length ≤ n →
      parseMembers A n (skip (ms.text ++ rest)) = some (ms.sem A, rest)

theorem Syn.elems_opens (es : Syn .elems) (rest : List Char) :
    ∃ c cs, skip (es.text ++ rest) = c :: cs ∧ Opens c := by
  cases es with
  | lastElem w v w' =>
    obtain ⟨c, cs, htext, hopens⟩ := v.text_opens
    refine ⟨c, cs ++ (w'.chars ++ ']' :: rest), ?_, hopens⟩
    rw [Syn.text_lastElem, skip_space, Syn.skip_text, htext, List.cons_append]
  | elem w v w' es =>
    obtain ⟨c, cs, htext, hopens⟩ := v.text_opens
    refine ⟨c, cs ++ (w'.chars ++ ',' :: (es.text ++ rest)), ?_, hopens⟩
    rw [Syn.text_elem, skip_space, Syn.skip_text, htext, List.cons_append]

theorem Key.skip_text (k : Key) (cs : List Char) :
    skip (k.text ++ cs) =
      '"' :: (literal k.name ++ (k.after.chars ++ ':' :: (k.afterColon.chars ++ cs))) := by
  rw [Key.text_append, skip_space_cons _ (by decide)]

theorem Syn.members_opens (ms : Syn .members) (rest : List Char) :
    ∃ cs, skip (ms.text ++ rest) = '"' :: cs := by
  cases ms with
  | lastMember k v w =>
    rw [Syn.text_lastMember, Key.skip_text]
    exact ⟨_, rfl⟩
  | member k v w ms =>
    rw [Syn.text_member, Key.skip_text]
    exact ⟨_, rfl⟩

variable {A : Interp ν}

theorem parseValue_emptyArr (n : Nat) (w : Space) (rest : List Char) :
    parseValue A (n + 1) ('[' :: (w.chars ++ ']' :: rest)) = some (A.arr [], rest) := by
  have hskip := skip_space_cons w (show isBlank ']' = false by decide) rest
  simp [parseValue, hskip]

theorem parseValue_arr {n : Nat} {cs : List Char} (h : ∃ c cs', skip cs = c :: cs' ∧ Opens c) :
    parseValue A (n + 1) ('[' :: cs) =
      (parseElems A n (skip cs)).map fun r => (A.arr r.1, r.2) := by
  obtain ⟨c, cs', hskip, -, hc, -⟩ := h
  simp [parseValue, hskip, hc]

theorem parseValue_emptyObj (n : Nat) (w : Space) (rest : List Char) :
    parseValue A (n + 1) ('{' :: (w.chars ++ '}' :: rest)) = some (A.obj [], rest) := by
  have hskip := skip_space_cons w (show isBlank '}' = false by decide) rest
  simp [parseValue, hskip]

theorem parseValue_obj {n : Nat} {cs : List Char} (h : ∃ cs', skip cs = '"' :: cs') :
    parseValue A (n + 1) ('{' :: cs) =
      (parseMembers A n (skip cs)).map fun r => (A.obj (r.1.map Member.pair), r.2) := by
  obtain ⟨cs', hskip⟩ := h
  simp [parseValue, hskip]

theorem parseElems_last {n : Nat} {cs rest : List Char} {v : ν} {w : Space}
    (h : parseValue A n cs = some (v, w.chars ++ ']' :: rest)) :
    parseElems A (n + 1) cs = some ([v], rest) := by
  have hskip := skip_space_cons w (show isBlank ']' = false by decide) rest
  simp [parseElems, h, hskip]

theorem parseElems_more {n : Nat} {cs rest : List Char} {v : ν} {w : Space}
    (h : parseValue A n cs = some (v, w.chars ++ ',' :: rest)) :
    parseElems A (n + 1) cs = (parseElems A n (skip rest)).map fun r => (v :: r.1, r.2) := by
  have hskip := skip_space_cons w (show isBlank ',' = false by decide) rest
  simp [parseElems, h, hskip]

/-- The source text of a member is what its value took of the input. -/
theorem take_raw (t rest : List Char) :
    (t ++ rest).take ((t ++ rest).length - rest.length) = t := by
  simp

theorem parseMembers_last {n : Nat} {k : Key} {v : Syn .value} {x : ν} {w : Space}
    {rest : List Char} (h : parseValue A n (v.text ++ (w.chars ++ '}' :: rest)) =
      some (x, w.chars ++ '}' :: rest)) :
    parseMembers A (n + 1) (skip (k.text ++ (v.text ++ (w.chars ++ '}' :: rest)))) =
      some ([⟨decode k.name, v.text, x⟩], rest) := by
  have hskip := skip_space_cons w (show isBlank '}' = false by decide) rest
  rw [Key.skip_text, parseMembers, parsePieces_literal, Option.bind_some]
  simp only [skip_space, skip_cons (show isBlank ':' = false by decide), Syn.skip_text, h,
    Option.bind_some, hskip, take_raw]

theorem parseMembers_more {n : Nat} {k : Key} {v : Syn .value} {x : ν} {w : Space}
    {rest : List Char} (h : parseValue A n (v.text ++ (w.chars ++ ',' :: rest)) =
      some (x, w.chars ++ ',' :: rest)) :
    parseMembers A (n + 1) (skip (k.text ++ (v.text ++ (w.chars ++ ',' :: rest)))) =
      (parseMembers A n (skip rest)).map fun r =>
        (⟨decode k.name, v.text, x⟩ :: r.1, r.2) := by
  have hskip := skip_space_cons w (show isBlank ',' = false by decide) rest
  rw [Key.skip_text, parseMembers, parsePieces_literal, Option.bind_some]
  simp only [skip_space, skip_cons (show isBlank ':' = false by decide), Syn.skip_text, h,
    Option.bind_some, hskip, take_raw]

theorem parseValue_num {n : Nat} (lit : Number) {rest : List Char} (hrest : NoNum rest) :
    parseValue A (n + 1) (lit.lit ++ rest) = some (A.num lit.lit, rest) := by
  obtain ⟨c, cs, hc⟩ := lit.exists_cons
  have hnum : isNumChar c = true := lit.isNumChar c (hc ▸ List.mem_cons_self ..)
  -- the head is none of the characters that begin another value
  have hne : ∀ d, isNumChar d = false → c ≠ d := by
    rintro d hd rfl
    exact absurd hnum (by simp [hd])
  have hnumber : parseNumber A (lit.lit ++ rest) = some (A.num lit.lit, rest) := by
    rw [parseNumber, takeWhile_number lit.isNumChar hrest, dropWhile_number lit.isNumChar hrest,
      if_pos lit.ok]
  rw [hc, List.cons_append] at hnumber ⊢
  rw [parseValue, if_neg (hne _ (by decide)), if_neg (hne _ (by decide)),
    if_neg (hne _ (by decide)), if_neg (hne _ (by decide)), if_neg (hne _ (by decide)),
    if_neg (hne _ (by decide)), hnumber]

/-- Completeness of the parser, by induction on the tree. -/
theorem Syn.reads (A : Interp ν) {k : Kind} (s : Syn k) : s.Reads A := by
  induction s with
  | null =>
    rintro (_ | n) rest hn -
    · exact absurd hn (by decide)
    · rfl
  | bool b =>
    rintro (_ | n) rest hn -
    · cases b <;> exact absurd hn (by decide)
    · cases b <;> rfl
  | num lit =>
    rintro (_ | n) rest hn hrest
    · obtain ⟨c, cs, hc⟩ := lit.exists_cons
      simp [Syn.text, hc] at hn
    · exact parseValue_num lit hrest
  | str ps =>
    rintro (_ | n) rest hn -
    · simp [Syn.text] at hn
    · show parseValue A (n + 1) ('"' :: (literal ps ++ rest)) = _
      rw [parseValue, if_pos rfl, parsePieces_literal]
      rfl
  | emptyArr w =>
    rintro (_ | n) rest hn -
    · simp [Syn.text] at hn
    · rw [Syn.text_emptyArr, parseValue_emptyArr]
      rfl
  | arr es ih =>
    rintro (_ | n) rest hn -
    · simp [Syn.text] at hn
    · show parseValue A (n + 1) ('[' :: (es.text ++ rest)) = _
      rw [parseValue_arr (es.elems_opens rest), ih n rest (Nat.le_of_succ_le_succ hn)]
      rfl
  | emptyObj w =>
    rintro (_ | n) rest hn -
    · simp [Syn.text] at hn
    · rw [Syn.text_emptyObj, parseValue_emptyObj]
      rfl
  | obj ms ih =>
    rintro (_ | n) rest hn -
    · simp [Syn.text] at hn
    · show parseValue A (n + 1) ('{' :: (ms.text ++ rest)) = _
      rw [parseValue_obj (ms.members_opens rest), ih n rest (Nat.le_of_succ_le_succ hn)]
      rfl
  | lastElem w v w' ih =>
    rintro (_ | n) rest hn
    · simp [Syn.text] at hn
    · have hfuel : v.text.length ≤ n := by
        simp only [Syn.text, List.length_append, List.length_cons] at hn
        omega
      have hend : NoNum (w'.chars ++ ']' :: rest) := noNum_space w' (noNum_cons (by decide) rest)
      have hvalue := ih n _ hfuel hend
      rw [Syn.text_lastElem, skip_space, Syn.skip_text, parseElems_last hvalue]
      rfl
  | elem w v w' es ihv ihes =>
    rintro (_ | n) rest hn
    · simp [Syn.text] at hn
    · have hfuel : v.text.length ≤ n ∧ es.text.length ≤ n := by
        simp only [Syn.text, List.length_append, List.length_cons] at hn
        omega
      have hend : NoNum (w'.chars ++ ',' :: (es.text ++ rest)) :=
        noNum_space w' (noNum_cons (by decide) _)
      have hvalue := ihv n _ hfuel.1 hend
      rw [Syn.text_elem, skip_space, Syn.skip_text, parseElems_more hvalue, ihes n rest hfuel.2]
      rfl
  | lastMember k v w ih =>
    rintro (_ | n) rest hn
    · simp [Syn.text] at hn
    · have hfuel : v.text.length ≤ n := by
        simp only [Syn.text, List.length_append, List.length_cons] at hn
        omega
      have hend : NoNum (w.chars ++ '}' :: rest) := noNum_space w (noNum_cons (by decide) rest)
      have hvalue := ih n _ hfuel hend
      rw [Syn.text_lastMember, parseMembers_last hvalue]
      rfl
  | member k v w ms ihv ihms =>
    rintro (_ | n) rest hn
    · simp [Syn.text] at hn
    · have hfuel : v.text.length ≤ n ∧ ms.text.length ≤ n := by
        simp only [Syn.text, List.length_append, List.length_cons] at hn
        omega
      have hend : NoNum (w.chars ++ ',' :: (ms.text ++ rest)) :=
        noNum_space w (noNum_cons (by decide) _)
      have hvalue := ihv n _ hfuel.1 hend
      rw [Syn.text_member, parseMembers_more hvalue, ihms n rest hfuel.2]
      rfl

theorem parse_of_parseValue {cs : List Char} {v : ν} {w : Space}
    (h : parseValue A cs.length (skip cs) = some (v, w.chars)) : parse A cs = some v := by
  simp [parse, h, skip_chars]

/-- Every document is read as the value it denotes. -/
theorem parse_text (A : Interp ν) (d : Document) : parse A d.text = some (d.value.sem A) := by
  have hskip : skip d.text = d.value.text ++ d.after.chars := by
    rw [Document.text, List.append_assoc, skip_space, Syn.skip_text]
  have hfuel : d.value.text.length ≤ d.text.length := by
    simp only [Document.text, List.length_append]
    omega
  have hafter : NoNum d.after.chars := by
    have h := noNum_space d.after (show NoNum [] from nofun)
    rwa [List.append_nil] at h
  have hvalue := d.value.reads A _ _ hfuel hafter
  rw [← hskip] at hvalue
  exact parse_of_parseValue hvalue

theorem Denotes.parse_eq {t : List Char} {v : ν} (h : Denotes A t v) : parse A t = some v := by
  obtain ⟨d, rfl, rfl⟩ := h
  exact parse_text A d

theorem Denotes.ne_nil {t : List Char} {v : ν} (h : Denotes A t v) : t ≠ [] := by
  obtain ⟨d, rfl, -⟩ := h
  obtain ⟨c, cs, htext, -⟩ := d.value.text_opens
  simp [Document.text, htext]

theorem parseFields_of_parseMembers {t cs : List Char} {fields : List (Member ν)} {w : Space}
    (ht : skip t = '{' :: cs) (hopens : ∃ cs', skip cs = '"' :: cs')
    (h : parseMembers A cs.length (skip cs) = some (fields, w.chars)) :
    parseFields A t = some fields := by
  obtain ⟨cs', hskip⟩ := hopens
  rw [hskip] at h
  rw [parseFields, ht]
  simp [hskip, h, skip_chars]

/-- The members of an object, with their source texts. -/
theorem parseFields_text (A : Interp ν) (ms : Syn .members) :
    parseFields A (Syn.obj ms).text = some (ms.sem A) := by
  have hopens := ms.members_opens []
  have hreads := ms.reads A ms.text.length [] le_rfl
  have hskip : skip (Syn.obj ms).text = '{' :: ms.text := skip_cons (by decide)
  rw [List.append_nil] at hopens hreads
  exact parseFields_of_parseMembers (w := .none) hskip hopens hreads

end JsonText
