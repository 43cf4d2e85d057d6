-- SUMMARY: The tokens that printed literals, numbers and strings are read as.
import Mathlib.Data.List.Basic
import Mathlib.Data.List.TakeDrop
import Mathlib.Tactic.SplitIfs
import SdnZones.Json.Printer
import SdnZones.Json.Token

/-!
# Tokens of printed text

A printed scalar is read as one token, and reading stops where the scalar ends. For strings this
holds whatever follows; a number has to be followed by something that does not carry it on
(`Json.Ends`).
-/

namespace SdnZones.Json

/-! ## Strings -/

theorem hexCode?_digitChar {n : Nat} (h : n < 32) :
    hexCode? '0' '0' (Nat.digitChar (n / 16)) (Nat.digitChar (n % 16)) = some n := by
  have all : ∀ n < 32,
      hexCode? '0' '0' (Nat.digitChar (n / 16)) (Nat.digitChar (n % 16)) = some n := by decide
  exact all n h

theorem scanString_escape {done rest : List Char} {e c : Char} (h : escaped? e = some c) :
    scanString done ('\\' :: e :: rest) = scanString (c :: done) rest := by
  have ne : e ≠ 'u' := by
    rintro rfl
    cases h
  rw [scanString, h]
  · exact fun _ _ _ _ _ same => absurd same ne
  · exact ne

theorem scanString_control {done rest : List Char} {c : Char} (h : c.toNat < 0x20) :
    scanString done ('\\' :: 'u' :: '0' :: '0' :: Nat.digitChar (c.toNat / 16) ::
      Nat.digitChar (c.toNat % 16) :: rest) = scanString (c :: done) rest := by
  have low : c.toNat < 0xD800 ∨ 0xDFFF < c.toNat := .inl (by omega)
  rw [scanString, hexCode?_digitChar h]
  simp only [if_pos low, Char.ofNat_toNat]

theorem scanString_plain {done rest : List Char} {c : Char} (quote : c ≠ '"')
    (backslash : c ≠ '\\') (h : ¬ c.toNat < 0x20) :
    scanString done (c :: rest) = scanString (c :: done) rest := by
  rw [scanString, if_neg h]
  · exact quote
  all_goals intros; contradiction

/-- One printed character is read as itself. -/
theorem scanString_escapedChar (done : List Char) (c : Char) (rest : List Char) :
    scanString done (escapedChar c ++ rest) = scanString (c :: done) rest := by
  rw [escapedChar]
  split_ifs with quote backslash lineFeed carriageReturn tab backspace formFeed control
  on_goal 8 => exact scanString_control control
  on_goal 8 => exact scanString_plain quote backslash control
  all_goals
    subst_vars
    exact scanString_escape rfl

/-- A printed string is read as itself. -/
theorem scanString_stringText (s : String) (rest : List Char) :
    Token.scanOne '"' (s.toList.flatMap escapedChar ++ '"' :: rest) = (.text (.ok s), rest) := by
  have scanned : ∀ (cs done : List Char), scanString done (cs.flatMap escapedChar ++ '"' :: rest) =
      (.ok (String.ofList (done.reverse ++ cs)), rest) := by
    intro cs
    induction cs with
    | nil =>
      intro done
      rw [List.flatMap_nil, List.nil_append, scanString, List.append_nil]
    | cons c cs ih =>
      intro done
      rw [List.flatMap_cons, List.append_assoc, scanString_escapedChar, ih, List.reverse_cons,
        List.append_assoc]
      rfl
  rw [Token.scanOne, scanned]
  simp

/-! ## Numbers -/

/-- Whether a number ends where this follows. -/
def Ends (rest : List Char) : Prop :=
  ∀ c, rest.head? = some c → c.isDigit = false ∧ c ≠ '.' ∧ c ≠ 'e' ∧ c ≠ 'E'

theorem absorb_eq {digits : List Char} {significand : Nat}
    (h : Nat.ofDigitChars 10 digits significand ≤ maxSignificand) :
    absorb significand digits = (Nat.ofDigitChars 10 digits significand, digits.length, 0) := by
  induction digits generalizing significand with
  | nil => rfl
  | cons c digits ih =>
    rw [Nat.ofDigitChars_cons, Nat.mul_comm] at h ⊢
    -- The whole number is at least what has been absorbed, so there is room for this digit.
    have fits : significand * 10 + (c.toNat - '0'.toNat) ≤ maxSignificand := by
      rw [Nat.ofDigitChars_eq_ofDigitChars_zero] at h
      have grows := Nat.le_mul_of_pos_left (significand * 10 + (c.toNat - '0'.toNat))
        (Nat.pow_pos (n := digits.length) (show 0 < 10 by decide))
      omega
    rw [absorb, if_pos fits, ih h]
    rfl

theorem spanDigits_append {digits rest : List Char} (all : ∀ c ∈ digits, c.isDigit = true)
    (ends : Ends rest) : spanDigits (digits ++ rest) = (digits, rest) := by
  have stop : rest.takeWhile Char.isDigit = [] := by
    cases rest with
    | nil => rfl
    | cons c rest => exact List.takeWhile_cons_of_neg (by simp [(ends c rfl).1])
  have keep : rest.dropWhile Char.isDigit = rest := by
    cases rest with
    | nil => rfl
    | cons c rest => exact List.dropWhile_cons_of_neg (by simp [(ends c rfl).1])
  rw [spanDigits, List.span_eq_takeWhile_dropWhile, List.takeWhile_append_of_pos all,
    List.dropWhile_append_of_pos all, stop, keep, List.append_nil]

/-- No positive number is printed with a zero in front. -/
theorem head?_toDigits_ne_zero {n : Nat} (h : 0 < n) : (Nat.toDigits 10 n).head? ≠ some '0' := by
  induction n using Nat.base_induction 10 (by decide) with
  | single m hm =>
    have all : ∀ m < 10, 0 < m → (Nat.toDigits 10 m).head? ≠ some '0' := by decide
    exact all m hm h
  | digit m k hk hm ih =>
    rw [← Nat.toDigits_append_toDigits (by decide) hm hk,
      List.head?_append_of_ne_nil _ Nat.toDigits_ne_nil]
    exact ih hm

theorem toDigits_ne_zero_cons {n : Nat} {c : Char} {cs : List Char} :
    Nat.toDigits 10 n ≠ '0' :: c :: cs := by
  intro printed
  rcases Nat.eq_zero_or_pos n with rfl | positive
  · rw [Nat.toDigits_zero] at printed
    cases printed
  · exact head?_toDigits_ne_zero positive (by rw [printed]; rfl)

theorem scanNumber_toDigits (negative : Bool) {n : Nat} {rest : List Char}
    (fits : n ≤ maxSignificand) (ends : Ends rest) :
    scanNumber negative (Nat.toDigits 10 n ++ rest) = (integerOf negative n, rest) := by
  have digits : ∀ c ∈ Nat.toDigits 10 n, c.isDigit = true := fun c hc =>
    Nat.isDigit_of_mem_toDigits (by decide) (by decide) hc
  have value : Nat.ofDigitChars 10 (Nat.toDigits 10 n) 0 = n := Nat.ofDigitChars_ten_toDigits
  have absorbed : absorb 0 (Nat.toDigits 10 n) = (n, (Nat.toDigits 10 n).length, 0) := by
    rw [absorb_eq (value.symm ▸ fits), value]
  rw [scanNumber, spanDigits_append digits ends]
  cases printed : Nat.toDigits 10 n with
  | nil => exact absurd printed Nat.toDigits_ne_nil
  | cons c cs =>
    rw [printed] at absorbed
    split
    · rename_i same; cases same
    · rename_i same; cases same
    · rename_i same
      cases same
      exact absurd printed toDigits_ne_zero_cons
    · rename_i same
      cases same
      simp only [absorbed]
      split
      · exact absurd rfl (ends _ rfl).2.1
      · exact absurd rfl (ends _ rfl).2.2.1
      · exact absurd rfl (ends _ rfl).2.2.2
      · rfl

/-- The integers that are read as themselves: those with 64 bits, with or without sign. -/
def IsWord (i : Int) : Prop := -9223372036854775808 ≤ i ∧ i ≤ 18446744073709551615

instance : DecidablePred IsWord := fun i =>
  inferInstanceAs (Decidable (-9223372036854775808 ≤ i ∧ i ≤ 18446744073709551615))

/-! ## Scalars -/

/-- Whether characters are read as one token if this follows them. -/
def Token.ReadAs (cs rest : List Char) (token : Token) : Prop :=
  ∃ c tail, cs = c :: tail ∧ isSpace c = false ∧ Token.scanOne c (tail ++ rest) = (token, rest)

theorem readAs_text (s : String) (rest : List Char) :
    Token.ReadAs (stringText s) rest (.text (.ok s)) := by
  refine ⟨'"', s.toList.flatMap escapedChar ++ ['"'], rfl, by decide, ?_⟩
  rw [List.append_assoc]
  exact scanString_stringText s rest

theorem readAs_null (rest : List Char) :
    Token.ReadAs "null".toList rest (.scalar .null) := ⟨'n', _, rfl, by decide, rfl⟩

theorem readAs_bool (b : Bool) (rest : List Char) :
    Token.ReadAs (if b then "true".toList else "false".toList) rest (.scalar (.bool b)) := by
  cases b with
  | true => exact ⟨'t', _, rfl, by decide, rfl⟩
  | false => exact ⟨'f', _, rfl, by decide, rfl⟩

/-- A digit starts a number and nothing else. -/
theorem scanOne_digit {c : Char} (digit : c.isDigit = true) (rest : List Char) :
    isSpace c = false ∧ Token.scanOne c rest =
      (.scalar (scanNumber false (c :: rest)).1, (scanNumber false (c :: rest)).2) := by
  have ne : ∀ {d : Char}, d.isDigit = false → c ≠ d := by
    rintro _ other rfl
    exact Bool.false_ne_true (other.symm.trans digit)
  constructor
  · have space : c ≠ ' ' := ne rfl
    have lineFeed : c ≠ '\n' := ne rfl
    have tab : c ≠ '\t' := ne rfl
    have carriageReturn : c ≠ '\r' := ne rfl
    simp [isSpace, *]
  · rw [Token.scanOne, if_pos digit]
    all_goals exact ne rfl

/-- The digits of a number are read as it. -/
theorem readAs_toDigits {n : Nat} (fits : n ≤ maxSignificand) {rest : List Char}
    (ends : Ends rest) :
    Token.ReadAs (Nat.toDigits 10 n) rest (.scalar (.int n)) := by
  have number := scanNumber_toDigits false fits ends
  cases printed : Nat.toDigits 10 n with
  | nil => exact absurd printed Nat.toDigits_ne_nil
  | cons c tail =>
    have digit : c.isDigit = true :=
      Nat.isDigit_of_mem_toDigits (b := 10) (n := n) (by decide) (by decide) (by simp [printed])
    obtain ⟨solid, scanned⟩ := scanOne_digit digit (tail ++ rest)
    rw [printed, List.cons_append] at number
    exact ⟨c, tail, rfl, solid, scanned.trans (by rw [number]; rfl)⟩

theorem maxSignificand_eq : maxSignificand = 18446744073709551615 := rfl

theorem readAs_int {i : Int} (word : IsWord i) {rest : List Char} (ends : Ends rest) :
    Token.ReadAs i.repr.toList rest (.scalar (.int i)) := by
  obtain ⟨low, high⟩ := word
  cases i with
  | ofNat n =>
    have fits : n ≤ maxSignificand := by
      rw [maxSignificand_eq]
      exact Int.ofNat_le.1 high
    show Token.ReadAs n.repr.toList rest _
    rw [Nat.toList_repr]
    exact readAs_toDigits fits ends
  | negSucc n =>
    have fits : n + 1 ≤ 9223372036854775808 := by omega
    have fitsUnsigned : n + 1 ≤ maxSignificand := by
      rw [maxSignificand_eq]
      omega
    have number := scanNumber_toDigits true fitsUnsigned ends
    have printed : (Int.negSucc n).repr.toList = '-' :: Nat.toDigits 10 (n + 1) := by
      rw [Int.repr, String.toList_append, ← Nat.toList_repr]
      rfl
    have small : ¬ (n + 1 = 0 ∨ twoTo 63 < n + 1) := by
      have : twoTo 63 = 9223372036854775808 := rfl
      omega
    refine ⟨'-', Nat.toDigits 10 (n + 1), printed, by decide, ?_⟩
    rw [Token.scanOne, number, integerOf, if_neg (by decide), if_neg small]
    rfl

end SdnZones.Json
