import Centralisd.Core.Encoding
import Centralisd.Lib.Fields
import Mathlib.Data.Bool.AllAny
import Mathlib.Data.List.Forall2

/-!
# Centralisd — the fields of a form

The helpers of `src/orchestrator/web/main.go` that read the fields of a form,
and what a field says, as relations that do not mention them.

* `ticked_iff`, `numberEntered_iff`, `timeoutEntered_iff`, `listEntered_iff` —
  each helper reads what the field says.
-/

namespace Centralisd.Web

open Fields

/-! ## The helpers -/

/-- `r.FormValue`, empty for a field that the form does not have. -/
abbrev Form := String → String

/-- `unicode.ToLower` on the characters that can meet the letters of the
words that `formValueBool` knows. -/
def toLower (c : Char) : Char :=
  if 'A' ≤ c ∧ c ≤ 'Z' then Char.ofNat (c.toNat + 32) else c

def formValueBool (form : Form) (key : String) : Bool :=
  let value := String.ofList ((trimSpace (form key)).toList.map toLower)
  (value == "1") || (value == "true") || (value == "on") || (value == "yes")

/-- `splitLines` and `splitCSV`, by their separator: the trimmed parts that
are not empty. -/
def splitTrimmed (sep : Char) (raw : String) : List String :=
  if trimSpace raw = "" then []
  else (((trimSpace raw).toList.splitOn sep).map fun part => trimSpace (String.ofList part)).filter
    (· ≠ "")

def splitLines : String → List String := splitTrimmed '\n'

def splitCSV : String → List String := splitTrimmed ','

/-- The value of decimal digits, at least one. -/
def parseDigits (digits : List Char) : Option Nat :=
  if digits ≠ [] ∧ digits.all Char.isDigit then
    some (digits.foldl (fun n c => 10 * n + (c.toNat - 48)) 0)
  else none

/-- `strconv.ParseUint(raw, 10, 64)`. -/
def parsePositiveUint64 (raw : String) : Option UInt64 :=
  (parseDigits raw.toList).bind fun n =>
    if n < 18446744073709551616 then some (UInt64.ofNat n) else none

/-- `strconv.Atoi`, with a sign. -/
def atoi (raw : String) : Option Int :=
  match raw.toList with
  | '-' :: digits => (parseDigits digits).bind fun n =>
    if n ≤ 9223372036854775808 then some (-n) else none
  | '+' :: digits => (parseDigits digits).bind fun n =>
    if n < 9223372036854775808 then some (n : Int) else none
  | digits => (parseDigits digits).bind fun n =>
    if n < 9223372036854775808 then some (n : Int) else none

def parsePositiveInt (raw : String) : Option Int :=
  (atoi raw).bind fun value => if value < 0 then none else some value

/-- A number of the create form: its default if the field is blank. -/
def formValueUint (form : Form) (key : String) (default : UInt64) : Option UInt64 :=
  if trimSpace (form key) = "" then some default else parsePositiveUint64 (trimSpace (form key))

/-- The timeout of a stop or restart: a text that is no valid one is left
out. -/
def formTimeout (form : Form) : Option Int :=
  if trimSpace (form "timeout") = "" then none else parsePositiveInt (trimSpace (form "timeout"))

theorem parseDigits_iff {digits : List Char} {n : Nat} :
    parseDigits digits = some n ↔ Decimal digits n := by
  rw [decimal_iff, Nat.ofDigitChars_eq_foldl, parseDigits]
  split
  next h => simp [h.1, h.2]
  next h => simpa using fun hne hall => absurd ⟨hne, by simpa using hall⟩ h

/-- Digits whose value is in range. -/
theorem parseDigits_bind_iff {β : Type} {P : Nat → Prop} [DecidablePred P] {f : Nat → β}
    {digits : List Char} {b : β} :
    ((parseDigits digits).bind fun n => if P n then some (f n) else none) = some b ↔
      ∃ n, Decimal digits n ∧ P n ∧ f n = b := by
  rw [Option.bind_eq_some_iff]
  refine exists_congr fun n => and_congr parseDigits_iff ?_
  split
  next h => simp [h]
  next h => simp [h]

/-- What `Atoi` returns is an `int`. -/
theorem atoi_range {raw : String} {n : Int} (h : atoi raw = some n) :
    -9223372036854775808 ≤ n ∧ n < 9223372036854775808 := by
  unfold atoi at h
  split at h
  · obtain ⟨k, -, hk, rfl⟩ := parseDigits_bind_iff.mp h
    omega
  · obtain ⟨k, -, hk, rfl⟩ := parseDigits_bind_iff.mp h
    omega
  · obtain ⟨k, -, hk, rfl⟩ := parseDigits_bind_iff.mp h
    omega

theorem formTimeout_range {form : Form} {n : Int} (h : formTimeout form = some n) :
    -9223372036854775808 ≤ n ∧ n < 9223372036854775808 := by
  unfold formTimeout parsePositiveInt at h
  split at h
  · exact absurd h (by simp)
  · obtain ⟨value, hvalue, hn⟩ := Option.bind_eq_some_iff.mp h
    split at hn
    · exact absurd hn (by simp)
    · obtain rfl := Option.some.inj hn
      exact atoi_range hvalue

/-! ## What a field says -/

/-- The text `s` was entered: the field is `s`, perhaps with white space
around it. -/
def Entered (raw s : String) : Prop := Trimmed isSpace raw.toList s.toList

theorem entered_iff {raw s : String} : Entered raw s ↔ trimSpace raw = s := by
  have htrim : (trimSpace raw).toList = trim isSpace raw.toList := trimSpace_toList raw
  rw [Entered, trimmed_iff, ← htrim, String.toList_inj]

theorem entered_trimSpace (raw : String) : Entered raw (trimSpace raw) := entered_iff.mpr rfl

/-- `s` is the word, in letters of either case. -/
def Spells (s word : String) : Prop :=
  List.Forall₂ (fun c letter => c = letter ∨ c = letter.toUpper) s.toList word.toList

/-- The words for a ticked box. -/
def tickWords : List String := ["1", "true", "on", "yes"]

def Ticked (raw : String) : Prop := ∃ s, Entered raw s ∧ ∃ word ∈ tickWords, Spells s word

/-- A number of the create form: nothing stands for the default, and any
other text has to be the decimal digits of a `uint64`. -/
inductive NumberEntered (raw : String) (default : UInt64) : UInt64 → Prop where
  | default : Entered raw "" → NumberEntered raw default default
  | given {s n} : Entered raw s → Decimal s.toList n.toNat → NumberEntered raw default n

/-- A decimal number that is not negative, perhaps with a sign. -/
inductive Whole : List Char → Nat → Prop where
  | plain {digits n} : Decimal digits n → Whole digits n
  | plus {digits n} : Decimal digits n → Whole ('+' :: digits) n
  | minusZero {digits} : Decimal digits 0 → Whole ('-' :: digits) 0

/-- The timeout that was entered: a valid one is an `int` that is not
negative. -/
def TimeoutEntered (raw : String) (value : Int) : Prop :=
  ∃ s n, Entered raw s ∧ Whole s.toList n ∧ n < 9223372036854775808 ∧ value = n

/-- The texts between the separators, trimmed and in their order, without the
blank ones. -/
def ListEntered (sep : Char) (raw : String) (out : List String) : Prop :=
  Fields.Listed isSpace sep raw.toList (out.map String.toList)

/-! ## The handlers read it -/

/-- The letters of the words. -/
def tickLetters : List Char := ['1', 't', 'r', 'u', 'e', 'o', 'n', 'y', 's']

theorem toLower_iff {c letter : Char} (h : letter ∈ tickLetters) :
    toLower c = letter ↔ c = letter ∨ c = letter.toUpper := by
  have hcapital : ∀ n, 65 ≤ n → n ≤ 90 → Char.ofNat (n + 32) ∈ tickLetters →
      Char.ofNat n = (Char.ofNat (n + 32)).toUpper := by decide
  have hlower : ∀ letter ∈ tickLetters,
      toLower letter = letter ∧ toLower letter.toUpper = letter :=
    List.all_iff_forall_prop.mp (by decide)
  constructor
  · intro hc
    unfold toLower at hc
    split at hc
    · -- a capital letter, which is 32 below the small one
      next hrange =>
      have hbounds : 65 ≤ c.toNat ∧ c.toNat ≤ 90 := hrange
      have hupper := hcapital _ hbounds.1 hbounds.2 (hc ▸ h)
      rw [hc, Char.ofNat_toNat] at hupper
      exact .inr hupper
    · exact .inl hc
  · rintro (rfl | rfl)
    · exact (hlower _ h).1
    · exact (hlower _ h).2

theorem map_toLower_iff {cs word : List Char} (hword : word ⊆ tickLetters) :
    cs.map toLower = word ↔
      List.Forall₂ (fun c letter => c = letter ∨ c = letter.toUpper) cs word := by
  induction word generalizing cs with
  | nil => rw [List.map_eq_nil_iff, List.forall₂_nil_right_iff]
  | cons letter word ih =>
    obtain ⟨hletter, hword⟩ := List.cons_subset.mp hword
    cases cs with
    | nil => simp [List.forall₂_nil_left_iff]
    | cons c cs =>
      rw [List.map_cons, List.cons.injEq, List.forall₂_cons, toLower_iff hletter, ih hword]

theorem spells_iff {s word : String} (h : word ∈ tickWords) :
    String.ofList (s.toList.map toLower) = word ↔ Spells s word := by
  have hletters : ∀ word ∈ tickWords, word.toList ⊆ tickLetters := by decide
  rw [← String.toList_inj, String.toList_ofList, Spells, map_toLower_iff (hletters word h)]

theorem ticked_iff (form : Form) (key : String) :
    formValueBool form key = true ↔ Ticked (form key) := by
  have hwords : formValueBool form key = true ↔
      String.ofList ((trimSpace (form key)).toList.map toLower) ∈ tickWords := by
    simp [formValueBool, tickWords, or_assoc]
  rw [hwords]
  constructor
  · intro h
    exact ⟨_, entered_trimSpace _, _, h, (spells_iff h).mp rfl⟩
  · rintro ⟨s, hs, word, hword, hspells⟩
    rw [entered_iff.mp hs, (spells_iff hword).mpr hspells]
    exact hword

theorem parsePositiveUint64_iff {raw : String} {n : UInt64} :
    parsePositiveUint64 raw = some n ↔ Decimal raw.toList n.toNat := by
  rw [parsePositiveUint64, parseDigits_bind_iff]
  constructor
  · rintro ⟨k, hk, hlt, rfl⟩
    rw [UInt64.toNat_ofNat_of_lt' hlt]
    exact hk
  · intro h
    exact ⟨n.toNat, h, n.toNat_lt, UInt64.ofNat_toNat⟩

/-- Every `uint64` can be given. -/
theorem parsePositiveUint64_toDigits (n : UInt64) :
    parsePositiveUint64 (String.ofList (Nat.toDigits 10 n.toNat)) = some n := by
  rw [parsePositiveUint64_iff, String.toList_ofList]
  exact decimal_toDigits n.toNat

theorem numberEntered_iff {form : Form} {key : String} {default n : UInt64} :
    NumberEntered (form key) default n ↔ formValueUint form key default = some n := by
  rw [formValueUint]
  constructor
  · rintro (hblank | ⟨hs, hdecimal⟩)
    · rw [if_pos (entered_iff.mp hblank)]
    · rw [entered_iff.mp hs, if_neg, parsePositiveUint64_iff.mpr hdecimal]
      rintro rfl
      exact hdecimal.ne_nil rfl
  · intro h
    split at h
    next hblank => exact Option.some.inj h ▸ .default (entered_iff.mpr hblank)
    · exact .given (entered_trimSpace _) (parsePositiveUint64_iff.mp h)

theorem parsePositiveInt_iff {raw : String} {value : Int} :
    parsePositiveInt raw = some value ↔
      ∃ n : Nat, Whole raw.toList n ∧ n < 9223372036854775808 ∧ value = n := by
  unfold parsePositiveInt atoi
  constructor
  · intro h
    obtain ⟨v, hv, hif⟩ := Option.bind_eq_some_iff.mp h
    split at hif
    · exact absurd hif (by simp)
    next hnonneg =>
    obtain rfl := Option.some.inj hif
    split at hv
    next digits heq =>
      -- a negative number is refused, so this one is zero
      obtain ⟨n, hn, -, rfl⟩ := parseDigits_bind_iff.mp hv
      obtain rfl : n = 0 := by omega
      exact ⟨0, heq ▸ .minusZero hn, by omega, by omega⟩
    next digits heq =>
      obtain ⟨n, hn, hlt, rfl⟩ := parseDigits_bind_iff.mp hv
      exact ⟨n, heq ▸ .plus hn, hlt, rfl⟩
    next digits heq =>
      obtain ⟨n, hn, hlt, rfl⟩ := parseDigits_bind_iff.mp hv
      exact ⟨n, .plain hn, hlt, rfl⟩
  · rintro ⟨n, hwhole, hlt, rfl⟩
    have hnonneg : ¬ (n : Int) < 0 := by omega
    generalize raw.toList = cs at hwhole
    cases hwhole with
    | plain h =>
      -- digits do not start with a sign
      split
      next => exact absurd h (not_decimal_cons (by decide))
      next => exact absurd h (not_decimal_cons (by decide))
      next => simp [parseDigits_iff.mpr h, hlt]
    | plus h => simp [parseDigits_iff.mpr h, hlt]
    | minusZero h => simp [parseDigits_iff.mpr h]

theorem timeoutEntered_iff {form : Form} {value : Int} :
    formTimeout form = some value ↔ TimeoutEntered (form "timeout") value := by
  have hblank : ∀ n, ¬ Whole "".toList n := by
    rintro n ⟨⟩
    next h => exact h.ne_nil rfl
  rw [formTimeout]
  constructor
  · intro h
    split at h
    · exact absurd h (by simp)
    · obtain ⟨n, hwhole, hlt, hvalue⟩ := parsePositiveInt_iff.mp h
      exact ⟨_, n, entered_trimSpace _, hwhole, hlt, hvalue⟩
  · rintro ⟨s, n, hs, hwhole, hlt, hvalue⟩
    rw [entered_iff.mp hs, if_neg, parsePositiveInt_iff.mpr ⟨n, hwhole, hlt, hvalue⟩]
    rintro rfl
    exact hblank n hwhole

theorem listEntered_iff {sep : Char} {raw : String} {out : List String} :
    ListEntered sep raw out ↔ splitTrimmed sep raw = out := by
  have htrim : (trimSpace raw).toList = trim isSpace raw.toList := trimSpace_toList raw
  have hsplit : (splitTrimmed sep raw).map String.toList = entries isSpace sep raw.toList := by
    -- the text is trimmed before it is split, which changes no entry
    rw [← entries_trim, ← htrim, splitTrimmed]
    split
    next hblank => rw [hblank]; simp
    · generalize (trimSpace raw).toList = cs
      rw [entries]
      induction cs.splitOn sep with
      | nil => rfl
      | cons piece pieces ih =>
        have hpiece : (trimSpace (String.ofList piece)).toList = trim isSpace piece := by
          rw [trimSpace_toList, String.toList_ofList, trim]
        have hne : trimSpace (String.ofList piece) = "" ↔ trim isSpace piece = [] := by
          rw [← hpiece, String.toList_eq_nil_iff]
        by_cases hblank : trim isSpace piece = []
        · simpa [hblank, hne.mpr hblank] using ih
        · simpa [hblank, hne, hpiece] using ih
  rw [ListEntered, listed_iff, ← hsplit]
  constructor
  · exact fun h => List.map_injective_iff.mpr (fun _ _ => String.toList_inj.mp) h
  · exact fun h => congrArg _ h

theorem listEntered_splitTrimmed (sep : Char) (raw : String) :
    ListEntered sep raw (splitTrimmed sep raw) :=
  listEntered_iff.mpr rfl

end Centralisd.Web
