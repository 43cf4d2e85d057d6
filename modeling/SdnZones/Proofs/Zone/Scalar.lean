-- SUMMARY: Lenient integers and flags are read as exactly what they say, and nothing else is read.
import Mathlib
import SdnZones.Proofs.Text.Numeral
import SdnZones.Proofs.Text.Occurrence
import SdnZones.Proofs.Zone.Canonical

/-!
# Lenient scalars

A JSON value says an integer as a number or as a numeral with white space around it
(`Json.SaysInteger`), and a flag as a truth value, as `0` or `1`, or as a word in either case
(`Json.SaysFlag`). The two readers take a value for what it says, null for nothing, and refuse all
other values (`ValueKind.scalars_read_exactly`).
-/

namespace SdnZones

/-! ## Letters in either case -/

namespace Text

/-- The same character, or one ASCII letter in two cases. -/
def SameLetter (c d : Char) : Prop :=
  c = d ∨ (c.isUpper = true ∧ d.toNat = c.toNat + 32) ∨ (d.isUpper = true ∧ c.toNat = d.toNat + 32)

/-- Two texts that differ in the case of ASCII letters at most. -/
def SameLetters (s t : String) : Prop := List.Forall₂ SameLetter s.toList t.toList

theorem isUpper_iff {c : Char} : c.isUpper = true ↔ 65 ≤ c.toNat ∧ c.toNat ≤ 90 := by
  simp [Char.isUpper, UInt32.le_iff_toNat_le]

theorem toNat_toLower (c : Char) :
    c.toLower.toNat = if c.isUpper = true then c.toNat + 32 else c.toNat := by
  by_cases upper : c.isUpper = true
  · have small := (isUpper_iff.1 upper).2
    have valid : (c.toNat + 32).isValidChar := .inl (by omega)
    rw [if_pos upper, Char.toLower_eq_of_isUpper upper, Char.toNat_ofNat, if_pos valid]
  · rw [if_neg upper, Char.toLower_eq_of_not_isUpper upper]

theorem toLower_eq_toLower_iff {c d : Char} : c.toLower = d.toLower ↔ SameLetter c d := by
  rw [← Char.toNat_inj, toNat_toLower, toNat_toLower, SameLetter, ← Char.toNat_inj]
  simp only [isUpper_iff]
  split_ifs <;> omega

/-- Texts that are the same in lower case differ in the case of letters only. -/
theorem map_toLower_eq_iff {s t : String} :
    s.toList.map Char.toLower = t.toList.map Char.toLower ↔ SameLetters s t := by
  rw [← List.forall₂_eq_eq_eq, List.forall₂_map_left_iff, List.forall₂_map_right_iff, SameLetters]
  simp only [toLower_eq_toLower_iff]

end Text

/-! ## What values say -/

namespace ValueKind

/-- The words for a truth value. -/
def truthWords : Bool → List String
  | true => ["1", "true", "yes", "on"]
  | false => ["0", "false", "no", "off"]

end ValueKind

/-- A value says an integer: it is that number, or a numeral for it with white space around. -/
inductive Json.SaysInteger : Json → Int → Prop where
  | number (n : Int) : SaysInteger (.int n) n
  | numeral {s : String} {core : List Char} {n : Int} (strips : Text.StripsTo s.toList core)
    (denotes : Numeral.Denotes core n) : SaysInteger (.text s) n

/-- A value says a truth value: it is one, or its number, or a word for it in whatever case. -/
inductive Json.SaysFlag : Json → Bool → Prop where
  | bool (b : Bool) : SaysFlag (.bool b) b
  | zero : SaysFlag (.int 0) false
  | one : SaysFlag (.int 1) true
  | word {s word : String} {b : Bool} (known : word ∈ ValueKind.truthWords b)
    (same : Text.SameLetters s word) : SaysFlag (.text s) b

namespace ValueKind

/-! ## Reading -/

/-- A text in lower case. -/
def lowered (s : String) : String := String.ofList (s.toList.map Char.toLower)

theorem lowered_mem_truthWords_iff {s : String} {b : Bool} :
    lowered s ∈ truthWords b ↔ ∃ word ∈ truthWords b, Text.SameLetters s word := by
  have lower : ∀ b, ∀ word ∈ truthWords b, word.toList.map Char.toLower = word.toList := by decide
  have same : ∀ word ∈ truthWords b, lowered s = word ↔ Text.SameLetters s word := fun word h => by
    rw [← Text.map_toLower_eq_iff, lower b word h, lowered, ← String.toList_inj,
      String.toList_ofList]
  constructor
  · exact fun h => ⟨lowered s, h, (same _ h).1 rfl⟩
  · rintro ⟨word, known, alike⟩
    exact (same word known).2 alike ▸ known

theorem truthOfWord?_eq_some_iff {s : String} {b : Bool} :
    truthOfWord? s = some b ↔ ∃ word ∈ truthWords b, Text.SameLetters s word := by
  have exclusive : ∀ word ∈ truthWords false, word ∉ truthWords true := by decide
  have known : truthOfWord? s = if lowered s ∈ truthWords true then some true
      else if lowered s ∈ truthWords false then some false else none := by
    simp only [← List.contains_iff_mem]
    rfl
  rw [known, ← lowered_mem_truthWords_iff]
  cases b with
  | true => split_ifs with yes no <;> simp [yes]
  | false =>
    split_ifs with yes no
    · exact iff_of_false (by simp) fun no => exclusive _ no yes
    · exact iff_of_true rfl no
    · exact iff_of_false (by simp) no

/-- The outcome of reading a value that may say something: what it says, nothing for null, and a
fault for every other value. -/
structure ReadsExactly {α : Type} (read : Except DecodeFault (Option α)) (v : Json)
    (Says : α → Prop) : Prop where
  value : ∀ x, read = .ok (some x) ↔ Says x
  absent : read = .ok none ↔ v = .null
  fault : (∃ e, read = .error e) ↔ v ≠ .null ∧ ∀ x, ¬ Says x

theorem ReadsExactly.of_value_of_absent {α : Type} {read : Except DecodeFault (Option α)} {v : Json}
    {Says : α → Prop} (value : ∀ x, read = .ok (some x) ↔ Says x)
    (absent : read = .ok none ↔ v = .null) : ReadsExactly read v Says where
  value := value
  absent := absent
  fault := by
    simp only [Ne, ← absent, ← value]
    cases read with
    | error e => simp
    | ok x? => cases x? <;> simp

theorem decodeFlag_eq_ok_iff {v : Json} {b : Bool} :
    decodeFlag v = .ok (some b) ↔ v.SaysFlag b := by
  constructor
  · intro h
    cases v with
    | bool b' => cases h; exact .bool b
    | int i =>
      rw [decodeFlag] at h
      split_ifs at h with zero one
      · cases h; subst zero; exact .zero
      · cases h; subst one; exact .one
    | text s =>
      rw [decodeFlag] at h
      cases word : truthOfWord? s with
      | none => rw [word] at h; cases h
      | some b' =>
        rw [word] at h
        cases h
        obtain ⟨w, known, same⟩ := truthOfWord?_eq_some_iff.1 word
        exact .word known same
    | null | float | array | object => cases h
  · intro said
    cases said with
    | bool | zero | one => rfl
    | word known same => rw [decodeFlag, truthOfWord?_eq_some_iff.2 ⟨_, known, same⟩]

theorem decodeInteger_eq_ok_iff {v : Json} {w : Int32} :
    decodeInteger v = .ok (some w) ↔ v.SaysInteger w.toInt := by
  constructor
  · intro h
    cases v with
    | int i =>
      rw [decodeInteger] at h
      cases fits : Numeral.toInt32? i with
      | none => rw [fits] at h; cases h
      | some w' =>
        rw [fits] at h
        cases h
        rw [Numeral.toInt32?_eq_some_iff.1 fits]
        exact .number _
    | text s =>
      rw [decodeInteger] at h
      cases numeral : (Numeral.int? 10 (Text.trim s.toList)).bind Numeral.toInt32? with
      | none => rw [numeral] at h; cases h
      | some w' =>
        rw [numeral] at h
        cases h
        obtain ⟨i, read, fits⟩ := Option.bind_eq_some_iff.1 numeral
        rw [Numeral.toInt32?_eq_some_iff.1 fits] at read
        exact .numeral (Text.stripsTo_trim _) (Numeral.int?_eq_some_iff.1 read)
    | null | bool | float | array | object => cases h
  · intro said
    generalize same : w.toInt = i at said
    cases said with
    | number => rw [decodeInteger, ← same, Numeral.toInt32?_toInt]
    | numeral strips denotes =>
      rw [decodeInteger, Text.trim_eq_iff.2 strips, Numeral.int?_eq_some_iff.2 denotes, ← same,
        Option.bind_some, Numeral.toInt32?_toInt]

theorem map_decodeInteger_eq_ok_iff {v : Json} {n : Int} :
    (decodeInteger v).map (Option.map Int32.toInt) = .ok (some n) ↔
      v.SaysInteger n ∧ -2 ^ 31 ≤ n ∧ n < 2 ^ 31 := by
  have word : (decodeInteger v).map (Option.map Int32.toInt) = .ok (some n) ↔
      ∃ w : Int32, decodeInteger v = .ok (some w) ∧ w.toInt = n := by
    cases decodeInteger v <;> simp [Except.map]
  rw [word]
  constructor
  · rintro ⟨w, read, rfl⟩
    exact ⟨decodeInteger_eq_ok_iff.1 read, w.le_toInt, w.toInt_lt⟩
  · rintro ⟨said, low, high⟩
    have same : (Int32.ofInt n).toInt = n := Int32.toInt_ofInt_of_le low high
    exact ⟨Int32.ofInt n, decodeInteger_eq_ok_iff.2 (by rwa [same]), same⟩

/-- Lenient scalars are read as exactly what they say. An integer has to be one of the 32-bit
words with sign: any other is refused, and none is wrapped. -/
theorem scalars_read_exactly (v : Json) :
    ReadsExactly ((decodeInteger v).map (Option.map Int32.toInt)) v
        (fun n => v.SaysInteger n ∧ -2 ^ 31 ≤ n ∧ n < 2 ^ 31) ∧
      ReadsExactly (decodeFlag v) v v.SaysFlag := by
  have absent : ∀ k : ValueKind, k.decode v = .ok none ↔ v = .null := fun k =>
    ⟨eq_null_of_decode, fun null => null ▸ k.decode_null⟩
  have nothing : (decodeInteger v).map (Option.map Int32.toInt) = .ok none ↔
      decodeInteger v = .ok none := by
    cases decodeInteger v <;> simp [Except.map]
  constructor
  · exact .of_value_of_absent (fun _ => map_decodeInteger_eq_ok_iff)
      (nothing.trans (absent .integer))
  · exact .of_value_of_absent (fun _ => decodeFlag_eq_ok_iff) (absent .flag)

example : decodeInteger (.text "\t+0000002147483647 ") = .ok (some 2147483647) := by rfl

example : (decodeInteger (.text "2147483648")).toOption = none := by rfl

end ValueKind

end SdnZones
