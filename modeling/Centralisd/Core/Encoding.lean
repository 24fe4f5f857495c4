import Mathlib.Data.List.DropRight
import Mathlib.Data.List.Basic

/-!
# Centralisd — text and base64url

The two standard-library codecs every identity in the protocol goes
through: `strings.TrimSpace` and `base64.RawURLEncoding`.

Go strings that reach the protocol code have passed through JSON, so they
are sequences of Unicode code points and are modelled by `String`; byte
slices are `List UInt8`.

Main facts: a trimmed string trims to itself (`trimSpace_idem`), and an
encoded string has no white space to trim (`trimSpace_encodeToString`).
-/

namespace Centralisd

/-- Byte slices. -/
abbrev Bytes := List UInt8

/-! ## `strings.TrimSpace` -/

/-- `unicode.IsSpace`: the White_Space property. -/
def isSpace (c : Char) : Bool :=
  c == '\t' || c == '\n' || c == '\x0b' || c == '\x0c' || c == '\r' || c == ' ' ||
  c == '\u0085' || c == '\u00a0' || c == '\u1680' ||
  (decide ('\u2000' ≤ c) && decide (c ≤ '\u200a')) ||
  c == '\u2028' || c == '\u2029' || c == '\u202f' || c == '\u205f' || c == '\u3000'

/-- `strings.TrimSpace`: leading and trailing white space removed. -/
def trimSpace (s : String) : String :=
  String.ofList ((s.toList.dropWhile isSpace).rdropWhile isSpace)

theorem trimSpace_toList (s : String) :
    (trimSpace s).toList = (s.toList.dropWhile isSpace).rdropWhile isSpace := by
  rw [trimSpace, String.toList_ofList]

/-- A string without white space trims to itself. -/
theorem trimSpace_eq_self {s : String} (h : ∀ c ∈ s.toList, isSpace c = false) :
    trimSpace s = s := by
  have hdrop : s.toList.dropWhile isSpace = s.toList := by
    rw [List.dropWhile_eq_self_iff]
    intro hl
    rw [h _ (List.getElem_mem hl)]
    exact Bool.false_ne_true
  have hrdrop : s.toList.rdropWhile isSpace = s.toList := by
    rw [List.rdropWhile_eq_self_iff]
    intro hl
    rw [h _ (List.getLast_mem hl)]
    exact Bool.false_ne_true
  rw [trimSpace, hdrop, hrdrop, String.ofList_toList]

/-- Trimming twice is trimming once. -/
@[simp] theorem trimSpace_idem (s : String) : trimSpace (trimSpace s) = trimSpace s := by
  -- the first character of the trimmed string is that of `dropWhile`, since
  -- `rdropWhile` only shortens the list on the right
  have hhead : ((s.toList.dropWhile isSpace).rdropWhile isSpace).dropWhile isSpace =
      (s.toList.dropWhile isSpace).rdropWhile isSpace := by
    rw [List.dropWhile_eq_self_iff]
    intro hl
    have hpre : (s.toList.dropWhile isSpace).rdropWhile isSpace <+:
        s.toList.dropWhile isSpace := List.rdropWhile_prefix _ _
    rw [hpre.getElem hl]
    have hne : 0 < (s.toList.dropWhile isSpace).length := lt_of_lt_of_le hl hpre.length_le
    exact (List.dropWhile_eq_self_iff.mp (List.dropWhile_idempotent isSpace s.toList)) hne
  rw [trimSpace, trimSpace_toList, hhead, List.rdropWhile_idempotent, trimSpace]

@[simp] theorem trimSpace_empty : trimSpace "" = "" := by decide

theorem trimSpace_space_append (s : String) : trimSpace (" " ++ s) = trimSpace s := by
  have hlist : (" " ++ s).toList = ' ' :: s.toList := by
    rw [String.toList_append]
    rfl
  have hspace : isSpace ' ' = true := by decide
  rw [trimSpace, hlist, List.dropWhile_cons_of_pos hspace, trimSpace]

/-! ## `base64.RawURLEncoding` -/

namespace Base64

/-- The URL-safe alphabet. -/
def digit (n : Nat) : Char :=
  if n < 26 then Char.ofNat (65 + n)
  else if n < 52 then Char.ofNat (71 + n)
  else if n < 62 then Char.ofNat (n - 4)
  else if n = 62 then '-' else '_'

/-- The value of a digit; every other character is corrupt input. -/
def value? (c : Char) : Option Nat :=
  if 'A' ≤ c ∧ c ≤ 'Z' then some (c.toNat - 65)
  else if 'a' ≤ c ∧ c ≤ 'z' then some (c.toNat - 71)
  else if '0' ≤ c ∧ c ≤ '9' then some (c.toNat + 4)
  else if c = '-' then some 62
  else if c = '_' then some 63
  else none

/-- Three bytes become four digits; a rest of one or two bytes becomes two
or three digits, unpadded. -/
def encode : Bytes → List Char
  | [] => []
  | [a] => [digit (a.toNat / 4), digit (a.toNat % 4 * 16)]
  | [a, b] =>
    [digit (a.toNat / 4), digit (a.toNat % 4 * 16 + b.toNat / 16), digit (b.toNat % 16 * 4)]
  | a :: b :: c :: rest =>
    digit (a.toNat / 4) :: digit (a.toNat % 4 * 16 + b.toNat / 16) ::
    digit (b.toNat % 16 * 4 + c.toNat / 64) :: digit (c.toNat % 64) :: encode rest

/-- Four digits become three bytes. The encoding is not strict: the unused
low bits of the last digit are ignored. A single left-over digit is an
error. -/
def decode : List Char → Option Bytes
  | [] => some []
  | [_] => none
  | [a, b] => do
    let a ← value? a
    let b ← value? b
    return [UInt8.ofNat (a * 4 + b / 16)]
  | [a, b, c] => do
    let a ← value? a
    let b ← value? b
    let c ← value? c
    return [UInt8.ofNat (a * 4 + b / 16), UInt8.ofNat (b % 16 * 16 + c / 4)]
  | a :: b :: c :: d :: rest => do
    let a ← value? a
    let b ← value? b
    let c ← value? c
    let d ← value? d
    let bytes ← decode rest
    return UInt8.ofNat (a * 4 + b / 16) :: UInt8.ofNat (b % 16 * 16 + c / 4) ::
      UInt8.ofNat (c % 4 * 64 + d) :: bytes

/-- `RawURLEncoding.EncodeToString`. -/
def encodeToString (b : Bytes) : String := String.ofList (encode b)

/-- `RawURLEncoding.DecodeString`. Line breaks are skipped wherever they
stand. -/
def decodeString (s : String) : Option Bytes :=
  decode (s.toList.filter fun c => !(c == '\n' || c == '\r'))

theorem mem_encode (b : Bytes) : ∀ c ∈ encode b, ∃ n < 64, c = digit n := by
  induction b using encode.induct with
  | case1 => simp [encode]
  | case2 a =>
    have ha := a.toNat_lt
    intro c hc
    simp only [encode, List.mem_cons, List.not_mem_nil, or_false] at hc
    rcases hc with rfl | rfl <;> exact ⟨_, by omega, rfl⟩
  | case3 a b =>
    have ha := a.toNat_lt
    have hb := b.toNat_lt
    intro c hc
    simp only [encode, List.mem_cons, List.not_mem_nil, or_false] at hc
    rcases hc with rfl | rfl | rfl <;> exact ⟨_, by omega, rfl⟩
  | case4 a b c rest ih =>
    have ha := a.toNat_lt
    have hb := b.toNat_lt
    have hc := c.toNat_lt
    intro d hd
    simp only [encode, List.mem_cons] at hd
    rcases hd with rfl | rfl | rfl | rfl | hd
    · exact ⟨_, by omega, rfl⟩
    · exact ⟨_, by omega, rfl⟩
    · exact ⟨_, by omega, rfl⟩
    · exact ⟨_, by omega, rfl⟩
    · exact ih d hd

theorem isSpace_digit {n : Nat} (hn : n < 64) : isSpace (digit n) = false := by
  have hall : ∀ m : Fin 64, isSpace (digit m) = false := by decide
  exact hall ⟨n, hn⟩

theorem isSpace_encode (b : Bytes) : ∀ c ∈ encode b, isSpace c = false := by
  intro c hc
  obtain ⟨n, hn, rfl⟩ := mem_encode b c hc
  exact isSpace_digit hn

/-- An encoded string has no white space to trim. -/
@[simp] theorem trimSpace_encodeToString (b : Bytes) :
    trimSpace (encodeToString b) = encodeToString b := by
  apply trimSpace_eq_self
  rw [encodeToString, String.toList_ofList]
  exact isSpace_encode b

theorem encodeToString_ne_empty {b : Bytes} (hb : b ≠ []) : encodeToString b ≠ "" := by
  intro h
  have hnil : encode b = [] := by
    have := congrArg String.toList h
    rwa [encodeToString, String.toList_ofList] at this
  cases b using encode.induct with
  | case1 => exact hb rfl
  | case2 a => simp [encode] at hnil
  | case3 a b => simp [encode] at hnil
  | case4 a b c rest => simp [encode] at hnil

theorem value_digit {n : Nat} (hn : n < 64) : value? (digit n) = some n := by
  have hall : ∀ m : Fin 64, value? (digit m) = some m.val := by decide
  exact hall ⟨n, hn⟩

theorem decode_encode (b : Bytes) : decode (encode b) = some b := by
  induction b using encode.induct with
  | case1 => rfl
  | case2 a =>
    have ha := a.toNat_lt
    have h1 : a.toNat / 4 * 4 + a.toNat % 4 * 16 / 16 = a.toNat := by omega
    simp only [encode, decode, value_digit (show a.toNat / 4 < 64 by omega),
      value_digit (show a.toNat % 4 * 16 < 64 by omega), Option.bind_eq_bind, Option.bind_some,
      h1, UInt8.ofNat_toNat]
    rfl
  | case3 a b =>
    -- the bytes, put together again from the bits the digits took
    have ha := a.toNat_lt
    have hb := b.toNat_lt
    have h1 : a.toNat / 4 * 4 + (a.toNat % 4 * 16 + b.toNat / 16) / 16 = a.toNat := by omega
    have h2 : (a.toNat % 4 * 16 + b.toNat / 16) % 16 * 16 + b.toNat % 16 * 4 / 4 = b.toNat := by
      omega
    simp only [encode, decode, value_digit (show a.toNat / 4 < 64 by omega),
      value_digit (show a.toNat % 4 * 16 + b.toNat / 16 < 64 by omega),
      value_digit (show b.toNat % 16 * 4 < 64 by omega), Option.bind_eq_bind, Option.bind_some,
      h1, h2, UInt8.ofNat_toNat]
    rfl
  | case4 a b c rest ih =>
    have ha := a.toNat_lt
    have hb := b.toNat_lt
    have hc := c.toNat_lt
    have h1 : a.toNat / 4 * 4 + (a.toNat % 4 * 16 + b.toNat / 16) / 16 = a.toNat := by omega
    have h2 : (a.toNat % 4 * 16 + b.toNat / 16) % 16 * 16 +
        (b.toNat % 16 * 4 + c.toNat / 64) / 4 = b.toNat := by omega
    have h3 : (b.toNat % 16 * 4 + c.toNat / 64) % 4 * 64 + c.toNat % 64 = c.toNat := by omega
    simp only [encode, decode, value_digit (show a.toNat / 4 < 64 by omega),
      value_digit (show a.toNat % 4 * 16 + b.toNat / 16 < 64 by omega),
      value_digit (show b.toNat % 16 * 4 + c.toNat / 64 < 64 by omega),
      value_digit (show c.toNat % 64 < 64 by omega), ih, Option.bind_eq_bind, Option.bind_some,
      h1, h2, h3, UInt8.ofNat_toNat]
    rfl

/-- Decoding gives back what was encoded. -/
@[simp] theorem decodeString_encodeToString (b : Bytes) :
    decodeString (encodeToString b) = some b := by
  -- no digit is a line break, so the filter drops nothing
  have hfilter : (encode b).filter (fun c => !(c == '\n' || c == '\r')) = encode b := by
    rw [List.filter_eq_self]
    intro c hc
    have hspace := isSpace_encode b c hc
    by_contra hbreak
    have hc' : c = '\n' ∨ c = '\r' := by simpa [or_iff_not_imp_left] using hbreak
    rcases hc' with rfl | rfl <;> exact absurd hspace (by decide)
  rw [decodeString, encodeToString, String.toList_ofList, hfilter, decode_encode]

example : encodeToString [0xfb, 0xff, 0x10] = "-_8Q" := by decide
example : decodeString "-_8Q\n" = some [0xfb, 0xff, 0x10] := by decide

end Base64

end Centralisd
