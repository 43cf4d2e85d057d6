-- SUMMARY: Which texts are decimal numerals, and that these are read as the integers they denote.
import Mathlib.Data.Nat.Digits.Defs
import SdnZones.Text.Numeral

/-!
# Decimal numerals

A decimal numeral is one or more digits, with at most one sign before them (`Numeral.Denotes`).
Exactly these are read, however long they are, each as the integer that it denotes
(`Numeral.int?_eq_some_iff`).
-/

namespace SdnZones.Numeral

/-- The number that decimal digits stand for, the most significant digit first. -/
def decimalValue (digits : List Char) : Nat :=
  Nat.ofDigits 10 (digits.reverse.map fun d => d.toNat - '0'.toNat)

/-- One or more ASCII digits. -/
structure IsDecimal (cs : List Char) : Prop where
  ne_nil : cs ≠ []
  isDigit : ∀ c ∈ cs, c.isDigit = true

/-- A decimal numeral, with one sign or none, denotes an integer. -/
inductive Denotes : List Char → Int → Prop where
  | unsigned {digits : List Char} (decimal : IsDecimal digits) :
    Denotes digits (decimalValue digits)
  | plus {digits : List Char} (decimal : IsDecimal digits) :
    Denotes ('+' :: digits) (decimalValue digits)
  | minus {digits : List Char} (decimal : IsDecimal digits) :
    Denotes ('-' :: digits) (-decimalValue digits)

/-! ## Digits -/

theorem digit?_eq_some_iff {c : Char} {n : Nat} :
    digit? 10 c = some n ↔ c.isDigit = true ∧ c.toNat - '0'.toNat = n := by
  rw [Char.isDigit_iff_toNat]
  simp only [digit?, Percent.hexValue?, Char.reduceToNat]
  by_cases decimal : 48 ≤ c.toNat ∧ c.toNat ≤ 57
  · have small : c.toNat - 48 < 10 := by omega
    simp [decimal, small]
  · -- a letter has a value of ten or more
    refine iff_of_false (fun h => ?_) fun h => decimal h.1
    rw [if_neg decimal] at h
    split_ifs at h <;> simp at h

theorem decimalValue_cons (d : Char) (digits : List Char) :
    decimalValue (d :: digits) =
      (d.toNat - '0'.toNat) * 10 ^ digits.length + decimalValue digits := by
  rw [decimalValue, List.reverse_cons, List.map_append, Nat.ofDigits_append, List.length_map,
    List.length_reverse, List.map_singleton, Nat.ofDigits_singleton, Nat.add_comm, Nat.mul_comm]
  rfl

/-- Reading goes from the most significant digit down, with the value of those before. -/
theorem digitsFrom?_eq_some_iff {acc n : Nat} {cs : List Char} :
    digitsFrom? 10 acc cs = some n ↔
      (∀ c ∈ cs, c.isDigit = true) ∧ acc * 10 ^ cs.length + decimalValue cs = n := by
  induction cs generalizing acc with
  | nil => simp [digitsFrom?, decimalValue]
  | cons c cs ih =>
    rw [digitsFrom?, List.forall_mem_cons]
    cases digit : digit? 10 c with
    | none =>
      refine iff_of_false (Option.some_ne_none n).symm ?_
      rintro ⟨⟨first, _⟩, _⟩
      exact Option.some_ne_none _ ((digit?_eq_some_iff.2 ⟨first, rfl⟩).symm.trans digit)
    | some m =>
      obtain ⟨first, rfl⟩ := digit?_eq_some_iff.1 digit
      have regrouped : (acc * 10 + (c.toNat - '0'.toNat)) * 10 ^ cs.length + decimalValue cs =
          acc * 10 ^ (c :: cs).length + decimalValue (c :: cs) := by
        rw [decimalValue_cons, List.length_cons, Nat.pow_succ]
        ring
      simp only [ih, first, true_and, regrouped]

/-! ## Numerals -/

theorem nat?_eq_some_iff {cs : List Char} {n : Nat} :
    nat? 10 cs = some n ↔ IsDecimal cs ∧ decimalValue cs = n := by
  rw [nat?]
  cases cs with
  | nil => exact iff_of_false (Option.some_ne_none n).symm fun h => h.1.ne_nil rfl
  | cons c cs =>
    rw [List.isEmpty_cons, if_neg Bool.false_ne_true, digitsFrom?_eq_some_iff, Nat.zero_mul,
      Nat.zero_add]
    exact and_congr_left fun _ => ⟨fun digits => ⟨List.cons_ne_nil c cs, digits⟩, (·.isDigit)⟩

theorem IsDecimal.ne_sign {cs rest : List Char} {sign : Char} (decimal : IsDecimal cs)
    (isSign : sign.isDigit = false) : cs ≠ sign :: rest := by
  rintro rfl
  cases isSign.symm.trans (decimal.isDigit sign List.mem_cons_self)

/-- The numerals are read as what they denote, and nothing else is read. -/
theorem int?_eq_some_iff {cs : List Char} {i : Int} : int? 10 cs = some i ↔ Denotes cs i := by
  constructor
  · intro h
    rw [int?.eq_def] at h
    split at h
    · obtain ⟨n, read, rfl⟩ := Option.map_eq_some_iff.1 h
      obtain ⟨decimal, rfl⟩ := nat?_eq_some_iff.1 read
      exact .plus decimal
    · obtain ⟨n, read, rfl⟩ := Option.map_eq_some_iff.1 h
      obtain ⟨decimal, rfl⟩ := nat?_eq_some_iff.1 read
      exact .minus decimal
    · obtain ⟨n, read, rfl⟩ := Option.map_eq_some_iff.1 h
      obtain ⟨decimal, rfl⟩ := nat?_eq_some_iff.1 read
      exact .unsigned decimal
  · intro h
    cases h with
    | unsigned decimal =>
      rw [int?, nat?_eq_some_iff.2 ⟨decimal, rfl⟩]
      · rfl
      · exact fun rest => decimal.ne_sign rfl
      · exact fun rest => decimal.ne_sign rfl
    | plus decimal =>
      rw [int?, nat?_eq_some_iff.2 ⟨decimal, rfl⟩]
      rfl
    | minus decimal =>
      rw [int?, nat?_eq_some_iff.2 ⟨decimal, rfl⟩]
      rfl

end SdnZones.Numeral
