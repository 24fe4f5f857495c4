import Mathlib.Data.List.DropRight

/-!
# What a text field says

Three ways to read a text that was typed into a field, each as a relation
between the text and what it says, and the functions that compute them:

* `Trimmed p raw s` — `s` is `raw` without the blanks around it (`trim`);
* `Listed p sep raw out` — `out` are the pieces of `raw` between the
  separators, each trimmed, the empty ones left out (`entries`);
* `Decimal cs n` — `cs` are decimal digits and `n` is their value.

What is blank is a parameter. `entries_append_sep` is the equation behind
`entries`; `entries_trim` says that the blanks around a list do not matter,
whether the separator is one of them or not.
-/

namespace Fields

/-! ## Trimming -/

section
variable {α : Type*} {p : α → Bool} {raw s : List α}

def trim (p : α → Bool) (l : List α) : List α := (l.dropWhile p).rdropWhile p

/-- `raw` is `s` with blanks around it, and `s` has no blank at either end. -/
structure Trimmed (p : α → Bool) (raw s : List α) : Prop where
  around : ∃ before after, raw = before ++ s ++ after ∧
    (∀ x ∈ before, p x = true) ∧ ∀ x ∈ after, p x = true
  first : ∀ x ∈ s.head?, p x = false
  last : ∀ x ∈ s.getLast?, p x = false

@[simp] theorem trim_nil : trim p [] = [] := rfl

theorem trim_cons {x : α} (hx : p x = true) (l : List α) : trim p (x :: l) = trim p l := by
  rw [trim, List.dropWhile_cons_of_pos hx, trim]

theorem trim_blanks_append {before : List α} (h : ∀ x ∈ before, p x = true) (l : List α) :
    trim p (before ++ l) = trim p l := by
  induction before with
  | nil => rfl
  | cons x before ih =>
    rw [List.cons_append, trim_cons (h x List.mem_cons_self)]
    exact ih fun y hy => h y (List.mem_cons_of_mem x hy)

theorem trim_eq_nil {l : List α} : trim p l = [] ↔ ∀ x ∈ l, p x = true := by
  constructor
  · intro h x hx
    have hdrop : ∀ y ∈ l.dropWhile p, p y = true := List.rdropWhile_eq_nil_iff.mp h
    rw [← List.takeWhile_append_dropWhile (p := p) (l := l), List.mem_append] at hx
    rcases hx with hx | hx
    · exact List.mem_takeWhile_imp hx
    · exact hdrop x hx
  · intro h
    have hdrop : l.dropWhile p = [] := List.dropWhile_eq_nil_iff.mpr h
    rw [trim, hdrop, List.rdropWhile_nil]

theorem trim_concat {x : α} (hx : p x = true) (l : List α) : trim p (l ++ [x]) = trim p l := by
  by_cases hl : ∀ y ∈ l, p y = true
  · -- all of it goes at the front
    rw [trim_blanks_append hl, trim_cons hx, trim_eq_nil.mpr hl, trim_nil]
  · have hne : l.dropWhile p ≠ [] := fun h => hl (List.dropWhile_eq_nil_iff.mp h)
    have hdrop : (l ++ [x]).dropWhile p = l.dropWhile p ++ [x] := by
      rw [List.dropWhile_append, if_neg (by simpa using hne)]
    rw [trim, hdrop, List.rdropWhile_concat_pos _ _ _ hx, trim]

theorem trim_append_blanks {after : List α} (h : ∀ x ∈ after, p x = true) (l : List α) :
    trim p (l ++ after) = trim p l := by
  induction after generalizing l with
  | nil => rw [List.append_nil]
  | cons x after ih =>
    rw [List.append_cons, ih (fun y hy => h y (List.mem_cons_of_mem x hy)),
      trim_concat (h x List.mem_cons_self)]

/-- `trim` takes away blanks only. -/
theorem trimmed_trim (p : α → Bool) (raw : List α) : Trimmed p raw (trim p raw) where
  around := by
    refine ⟨raw.takeWhile p, (raw.dropWhile p).rtakeWhile p, ?_, ?_, ?_⟩
    · rw [trim, List.append_assoc, List.rdropWhile_append_rtakeWhile,
        List.takeWhile_append_dropWhile]
    · exact fun x hx => List.mem_takeWhile_imp hx
    · exact fun x hx => List.mem_rtakeWhile_imp hx
  first := by
    intro x hx
    have hprefix : trim p raw <+: raw.dropWhile p := List.rdropWhile_prefix _ _
    obtain ⟨rest, hrest⟩ := hprefix
    have hhead : (raw.dropWhile p).head? = some x := by
      rw [← hrest, List.head?_append, Option.mem_def.mp hx, Option.some_or]
    have hnot := List.head?_dropWhile_not p raw
    rw [hhead] at hnot
    simpa using hnot
  last := by
    intro x hx
    obtain ⟨init, hinit⟩ : ∃ init, trim p raw = init ++ [x] := by
      obtain ⟨hne, hlast⟩ := List.mem_getLast?_eq_getLast hx
      exact ⟨(trim p raw).dropLast, by rw [hlast, List.dropLast_concat_getLast]⟩
    have hnot := List.rdropWhile_last_not p (raw.dropWhile p) (by
      show trim p raw ≠ []
      rw [hinit]
      simp)
    have hlast : (trim p raw).getLast (by rw [hinit]; simp) = x := by simp [hinit]
    rw [← hlast]
    exact Bool.eq_false_iff.mpr hnot

theorem Trimmed.eq_trim (h : Trimmed p raw s) : trim p raw = s := by
  obtain ⟨before, after, rfl, hbefore, hafter⟩ := h.around
  have hdrop : s.dropWhile p = s := by
    cases s with
    | nil => rfl
    | cons x s => rw [List.dropWhile_cons_of_neg (by simp [h.first x rfl])]
  have hrdrop : s.rdropWhile p = s := by
    rw [List.rdropWhile_eq_self_iff]
    intro hne
    simp [h.last _ (List.getLast?_eq_some_getLast hne)]
  rw [trim_append_blanks hafter, trim_blanks_append hbefore, trim, hdrop, hrdrop]

theorem trimmed_iff : Trimmed p raw s ↔ trim p raw = s :=
  ⟨Trimmed.eq_trim, fun h => h ▸ trimmed_trim p raw⟩

end

/-! ## Lists -/

section
variable {α : Type*} {p : α → Bool} {sep : α} {raw : List α}
  {pieces out : List (List α)}

/-- The entries of a list of pieces, in their order: a blank piece has none,
every other one is its entry once it is trimmed. -/
inductive Kept (p : α → Bool) : List (List α) → List (List α) → Prop where
  | nil : Kept p [] []
  | blank {piece pieces out} :
    Trimmed p piece [] → Kept p pieces out → Kept p (piece :: pieces) out
  | entry {piece pieces s out} :
    Trimmed p piece s → s ≠ [] → Kept p pieces out → Kept p (piece :: pieces) (s :: out)

theorem kept_iff : Kept p pieces out ↔ (pieces.map (trim p)).filter (· ≠ []) = out := by
  constructor
  · intro h
    induction h with
    | nil => rfl
    | blank htrim _ ih => simpa [htrim.eq_trim] using ih
    | entry htrim hne _ ih => simpa [htrim.eq_trim, hne] using ih
  · rintro rfl
    induction pieces with
    | nil => exact .nil
    | cons piece pieces ih =>
      have htrim := trimmed_trim p piece
      by_cases hblank : trim p piece = []
      · simpa [hblank] using Kept.blank (hblank ▸ htrim) ih
      · simpa [hblank] using Kept.entry htrim hblank ih

variable [DecidableEq α]

/-- `raw` is the pieces with a separator between any two of them, and none
inside. -/
structure Pieces (sep : α) (raw : List α) (pieces : List (List α)) : Prop where
  joined : [sep].intercalate pieces = raw
  apart : ∀ piece ∈ pieces, sep ∉ piece
  nonempty : pieces ≠ []

theorem pieces_iff : Pieces sep raw pieces ↔ raw.splitOn sep = pieces := by
  constructor
  · intro h
    rw [← h.joined]
    exact List.splitOn_intercalate sep h.apart h.nonempty
  · rintro rfl
    refine ⟨List.intercalate_splitOn sep, ?_, List.splitOn_ne_nil sep raw⟩
    -- a character that is no separator goes to the front of the first piece
    induction raw with
    | nil => simp
    | cons x raw ih =>
      rw [List.splitOn_cons_eq_if_modifyHead]
      split
      · simpa using ih
      next hx =>
        cases hsplit : raw.splitOn sep with
        | nil => simp
        | cons piece pieces =>
          rw [hsplit] at ih
          simp only [List.modifyHead_cons, List.forall_mem_cons] at ih ⊢
          exact ⟨fun hmem => (List.mem_cons.mp hmem).elim
            (fun heq => hx (by simp [heq])) ih.1, ih.2⟩

/-- `out` are the entries of the text `raw`. -/
def Listed (p : α → Bool) (sep : α) (raw : List α) (out : List (List α)) : Prop :=
  ∃ pieces, Pieces sep raw pieces ∧ Kept p pieces out

def entries (p : α → Bool) (sep : α) (raw : List α) : List (List α) :=
  ((raw.splitOn sep).map (trim p)).filter (· ≠ [])

theorem listed_iff : Listed p sep raw out ↔ entries p sep raw = out := by
  constructor
  · rintro ⟨pieces, hpieces, hkept⟩
    rw [entries, pieces_iff.mp hpieces, kept_iff.mp hkept]
  · intro h
    exact ⟨raw.splitOn sep, pieces_iff.mpr rfl, kept_iff.mpr h⟩

theorem entries_append_sep (l rest : List α) :
    entries p sep (l ++ sep :: rest) = entries p sep l ++ entries p sep rest := by
  rw [entries, List.splitOn_append_cons_self, List.map_append, List.filter_append, entries,
    entries]

@[simp] theorem entries_nil : entries p sep [] = [] := by simp [entries]

/-- Without a separator there is one piece. -/
theorem entries_single {l : List α} (h : sep ∉ l) :
    entries p sep l = [trim p l].filter (· ≠ []) := by
  rw [entries, List.splitOn_eq_singleton h, List.map_singleton]

/-- A text ends with its last piece. -/
theorem last_piece (sep : α) (l : List α) :
    sep ∉ l ∨ ∃ l' rest, l = l' ++ sep :: rest ∧ sep ∉ rest := by
  induction l with
  | nil => exact .inl List.not_mem_nil
  | cons x l ih =>
    rcases ih with hl | ⟨l', rest, rfl, hrest⟩
    · by_cases hx : x = sep
      · exact .inr ⟨[], l, by rw [hx, List.nil_append], hl⟩
      · exact .inl fun hmem => (List.mem_cons.mp hmem).elim (fun h => hx h.symm) hl
    · exact .inr ⟨x :: l', rest, rfl, hrest⟩

theorem entries_concat {x : α} (hx : p x = true) (l : List α) :
    entries p sep (l ++ [x]) = entries p sep l := by
  by_cases hsep : x = sep
  · -- a separator that is blank, as a line break is, adds a blank piece
    subst hsep
    rw [entries_append_sep, entries_nil, List.append_nil]
  · -- any other blank belongs to the last piece
    have hlast : ∀ {rest : List α}, sep ∉ rest →
        entries p sep (rest ++ [x]) = entries p sep rest := by
      intro rest hrest
      have hrest' : sep ∉ rest ++ [x] := by simpa [hrest] using fun h : sep = x => hsep h.symm
      rw [entries_single hrest, entries_single hrest', trim_concat hx]
    rcases last_piece sep l with hl | ⟨l', rest, rfl, hrest⟩
    · exact hlast hl
    · rw [List.append_assoc, List.cons_append, entries_append_sep, entries_append_sep,
        hlast hrest]

theorem entries_cons {x : α} (hx : p x = true) (l : List α) :
    entries p sep (x :: l) = entries p sep l := by
  by_cases hsep : x = sep
  · subst hsep
    exact entries_append_sep [] l
  · rw [entries, List.splitOn_cons_eq_if_modifyHead, if_neg (by simpa using hsep), entries]
    cases l.splitOn sep with
    | nil => rfl
    | cons piece pieces => simp only [List.modifyHead_cons, List.map_cons, trim_cons hx]

theorem entries_trim (raw : List α) : entries p sep (trim p raw) = entries p sep raw := by
  obtain ⟨before, after, hraw, hbefore, hafter⟩ := (trimmed_trim p raw).around
  have hfront : ∀ {l : List α} (rest : List α), (∀ x ∈ l, p x = true) →
      entries p sep (l ++ rest) = entries p sep rest := by
    intro l rest hl
    induction l with
    | nil => rfl
    | cons x l ih =>
      rw [List.cons_append, entries_cons (hl x List.mem_cons_self)]
      exact ih fun y hy => hl y (List.mem_cons_of_mem x hy)
  have hback : ∀ {l : List α} (rest : List α), (∀ x ∈ l, p x = true) →
      entries p sep (rest ++ l) = entries p sep rest := by
    intro l
    induction l with
    | nil => exact fun rest _ => by rw [List.append_nil]
    | cons x l ih =>
      intro rest hl
      rw [List.append_cons, ih _ (fun y hy => hl y (List.mem_cons_of_mem x hy)),
        entries_concat (hl x List.mem_cons_self)]
  calc entries p sep (trim p raw)
      = entries p sep (trim p raw ++ after) := (hback _ hafter).symm
    _ = entries p sep (before ++ (trim p raw ++ after)) := (hfront _ hbefore).symm
    _ = entries p sep raw := by rw [← List.append_assoc, ← hraw]

end

/-! ## Numbers -/

/-- Decimal digits and their value. -/
inductive Decimal : List Char → Nat → Prop where
  | digit {d} : d < 10 → Decimal [d.digitChar] d
  | snoc {cs n d} : Decimal cs n → d < 10 → Decimal (cs ++ [d.digitChar]) (10 * n + d)

theorem digitChar_isDigit {d : Nat} (h : d < 10) : d.digitChar.isDigit = true := by
  rw [Nat.isDigit_digitChar, decide_eq_true h]

theorem digitChar_sub {d : Nat} (h : d < 10) : d.digitChar.toNat - '0'.toNat = d := by
  revert d
  decide

/-- A digit is the character of its value. -/
theorem digit_of_isDigit {c : Char} (h : c.isDigit = true) :
    ∃ d, d < 10 ∧ c = d.digitChar := by
  have hbounds : 48 ≤ c.toNat ∧ c.toNat ≤ 57 := by
    simpa [Char.isDigit, UInt32.le_iff_toNat_le] using h
  have hchar : ∀ n, 48 ≤ n → n ≤ 57 → Char.ofNat n = (n - 48).digitChar := by decide
  refine ⟨c.toNat - 48, by omega, ?_⟩
  rw [← hchar _ hbounds.1 hbounds.2, Char.ofNat_toNat]

/-- Digits read from the left, each ten times as much as the next one. -/
theorem decimal_iff {cs : List Char} {n : Nat} :
    Decimal cs n ↔ cs ≠ [] ∧ cs.all Char.isDigit = true ∧ Nat.ofDigitChars 10 cs 0 = n := by
  constructor
  · intro h
    induction h with
    | digit hd =>
      refine ⟨List.cons_ne_nil _ _, by simp [digitChar_isDigit hd], ?_⟩
      rw [Nat.ofDigitChars_cons, digitChar_sub hd, Nat.ofDigitChars_nil]
      omega
    | snoc _ hd ih =>
      obtain ⟨-, hdigits, hvalue⟩ := ih
      refine ⟨by simp, by simp [hdigits, digitChar_isDigit hd], ?_⟩
      rw [Nat.ofDigitChars_append, hvalue, Nat.ofDigitChars_cons, digitChar_sub hd,
        Nat.ofDigitChars_nil]
  · rintro ⟨hne, hdigits, rfl⟩
    -- the last digit is split off, as `snoc` puts it there
    induction cs using List.reverseRecOn with
    | nil => exact absurd rfl hne
    | append_singleton cs c ih =>
      simp only [List.all_append, List.all_cons, List.all_nil, Bool.and_true,
        Bool.and_eq_true] at hdigits
      obtain ⟨d, hd, rfl⟩ := digit_of_isDigit hdigits.2
      rw [Nat.ofDigitChars_append, Nat.ofDigitChars_cons, digitChar_sub hd, Nat.ofDigitChars_nil]
      by_cases hcs : cs = []
      · subst hcs
        simpa using Decimal.digit hd
      · exact .snoc (ih hcs hdigits.1) hd

theorem Decimal.ne_nil {cs : List Char} {n : Nat} (h : Decimal cs n) : cs ≠ [] :=
  (decimal_iff.mp h).1

/-- A sign is no digit. -/
theorem not_decimal_cons {c : Char} {cs : List Char} {n : Nat} (h : c.isDigit = false) :
    ¬ Decimal (c :: cs) n := by
  intro hdecimal
  have hall := (decimal_iff.mp hdecimal).2.1
  simp [h] at hall

/-- Every number has a text. -/
theorem decimal_toDigits (n : Nat) : Decimal (Nat.toDigits 10 n) n := by
  refine decimal_iff.mpr ⟨Nat.toDigits_ne_nil, ?_, Nat.ofDigitChars_ten_toDigits⟩
  exact List.all_eq_true.mpr fun c hc => Nat.isDigit_of_mem_toDigits (by decide) (by decide) hc

end Fields
