-- SUMMARY: How an encoded text is spelled, and that decoding it gives the text back.
import Mathlib.Data.List.Basic
import SdnZones.Proofs.Text.Utf8
import SdnZones.Text.Percent

/-!
# Percent-encoding round trip

An escape is read as its byte and a character that is kept as its own bytes, so decoding
an encoded text gives its UTF-8 form (`decodeBytes_encodeExcept`), whatever characters are
kept, as long as the percent sign is not one of them. The usual encoding can be told from the
bytes alone (`toList_encode`): it consists of plain characters and of escapes with two digits
(`Percent.Spelled`).
-/

namespace SdnZones.Percent

theorem hexValue?_hexDigit {n : Nat} (h : n < 16) : hexValue? (hexDigit n) = some n := by
  have all : ∀ n < 16, hexValue? (hexDigit n) = some n := by decide
  exact all n h

theorem decodeBytes_escape_append (b : UInt8) (rest : List Char) :
    decodeBytes (escape b ++ rest) = b :: decodeBytes rest := by
  have hb : b.toNat < 256 := b.toNat_lt
  have high : hexValue? (hexDigit (b.toNat / 16)) = some (b.toNat / 16) :=
    hexValue?_hexDigit (by omega)
  have low : hexValue? (hexDigit (b.toNat % 16)) = some (b.toNat % 16) :=
    hexValue?_hexDigit (by omega)
  have whole : UInt8.ofNat (b.toNat / 16 * 16 + b.toNat % 16) = b := by
    rw [Nat.div_add_mod' b.toNat 16, UInt8.ofNat_toNat]
  simp only [escape, List.cons_append, List.nil_append]
  rw [decodeBytes]
  simp only [high, low, whole]

theorem decodeBytes_escapes_append (bytes : List UInt8) (rest : List Char) :
    decodeBytes (bytes.flatMap escape ++ rest) = bytes ++ decodeBytes rest := by
  induction bytes with
  | nil => rfl
  | cons b bytes ih =>
    rw [List.flatMap_cons, List.append_assoc, decodeBytes_escape_append, ih, List.cons_append]

theorem decodeBytes_cons_of_ne {c : Char} (h : c ≠ '%') (rest : List Char) :
    decodeBytes (c :: rest) = String.utf8EncodeChar c ++ decodeBytes rest := by
  rw [decodeBytes]
  intro a b left heq
  exact absurd heq h

theorem decodeBytes_encodeExcept {keep : Char → Bool} (percent : keep '%' = false)
    (cs : List Char) : decodeBytes (encodeExcept keep cs) = Utf8.encode cs := by
  induction cs with
  | nil => simp [encodeExcept, Utf8.encode, decodeBytes]
  | cons c cs ih =>
    simp only [encodeExcept, Utf8.encode, List.flatMap_cons] at ih ⊢
    split
    · rename_i kept
      have ne : c ≠ '%' := by
        rintro rfl
        rw [percent] at kept
        cases kept
      rw [List.cons_append, List.nil_append, decodeBytes_cons_of_ne ne, ih]
    · rw [decodeBytes_escapes_append, ih]

/-- Decoding undoes encoding, for every text. -/
theorem decode?_encode (s : String) : decode? (encode s) = some s := by
  have hbytes : decodeBytes (encode s).toList = Utf8.encode s.toList := by
    rw [encode, String.toList_ofList]
    exact decodeBytes_encodeExcept (by decide) s.toList
  rw [decode?, hbytes]
  exact Utf8.decode?_bytesOf s

/-! ## How an encoded text is spelled -/

/-- An ASCII letter or digit, or one of `-_.~`. -/
def IsPlain (c : Char) : Prop :=
  ('A' ≤ c ∧ c ≤ 'Z') ∨ ('a' ≤ c ∧ c ≤ 'z') ∨ ('0' ≤ c ∧ c ≤ '9') ∨ c ∈ ['-', '_', '.', '~']

/-- A hexadecimal digit in upper case. -/
def IsHexDigit (c : Char) : Prop := ('0' ≤ c ∧ c ≤ '9') ∨ ('A' ≤ c ∧ c ≤ 'F')

instance : DecidablePred IsPlain := fun _ => inferInstanceAs (Decidable (_ ∨ _ ∨ _ ∨ _))

instance : DecidablePred IsHexDigit := fun _ => inferInstanceAs (Decidable (_ ∨ _))

/-- A text of plain characters and of escapes, each a percent sign and two digits. -/
inductive Spelled : List Char → Prop where
  | nil : Spelled []
  | plain {c : Char} {rest : List Char} (allowed : IsPlain c) (more : Spelled rest) :
    Spelled (c :: rest)
  | escape {high low : Char} {rest : List Char} (highDigit : IsHexDigit high)
    (lowDigit : IsHexDigit low) (more : Spelled rest) : Spelled ('%' :: high :: low :: rest)

/-- The spelling of a byte: the character that it is, if that is plain, or else its escape. -/
def spelling (b : UInt8) : List Char :=
  if IsPlain (Char.ofNat b.toNat) then [Char.ofNat b.toNat] else escape b

theorem isAlphanum_iff {c : Char} : c.isAlphanum = true ↔
    ('A' ≤ c ∧ c ≤ 'Z') ∨ ('a' ≤ c ∧ c ≤ 'z') ∨ ('0' ≤ c ∧ c ≤ '9') := by
  have classes : c.isAlphanum = (c.isUpper || c.isLower || c.isDigit) := rfl
  have upper : c.isUpper = decide ('A' ≤ c ∧ c ≤ 'Z') := rfl
  have lower : c.isLower = (decide ('a' ≤ c) && decide (c ≤ 'z')) := rfl
  have digit : c.isDigit = (decide ('0' ≤ c) && decide (c ≤ '9')) := rfl
  simp only [classes, upper, lower, digit, Bool.or_eq_true, Bool.and_eq_true, decide_eq_true_eq,
    or_assoc]

theorem isUnreserved_iff {c : Char} : isUnreserved c = true ↔ IsPlain c := by
  rw [isUnreserved, IsPlain]
  simp only [Bool.or_eq_true, isAlphanum_iff, beq_iff_eq, List.mem_cons, List.not_mem_nil,
    or_false, or_assoc]

theorem IsPlain.toNat_lt {c : Char} (h : IsPlain c) : c.toNat < 0x80 := by
  rcases h with ⟨-, upper⟩ | ⟨-, lower⟩ | ⟨-, digit⟩ | mark
  · exact Nat.lt_of_le_of_lt upper (by decide)
  · exact Nat.lt_of_le_of_lt lower (by decide)
  · exact Nat.lt_of_le_of_lt digit (by decide)
  · simp only [List.mem_cons, List.not_mem_nil, or_false] at mark
    rcases mark with rfl | rfl | rfl | rfl <;> decide

theorem isHexDigit_hexDigit {n : Nat} (h : n < 16) : IsHexDigit (hexDigit n) := by
  have all : ∀ n < 16, IsHexDigit (hexDigit n) := by decide
  exact all n h

theorem Spelled.spelling_append (b : UInt8) {rest : List Char} (more : Spelled rest) :
    Spelled (spelling b ++ rest) := by
  have byte : b.toNat < 256 := b.toNat_lt
  rw [spelling]
  split
  · rename_i allowed
    exact .plain allowed more
  · exact .escape (isHexDigit_hexDigit (by omega)) (isHexDigit_hexDigit (by omega)) more

theorem spelled_spellings (bytes : List UInt8) : Spelled (bytes.flatMap spelling) := by
  induction bytes with
  | nil => exact .nil
  | cons b bytes ih => exact ih.spelling_append b

theorem toNat_ofNat_byte (b : UInt8) : (Char.ofNat b.toNat).toNat = b.toNat := by
  have valid : b.toNat.isValidChar := .inl (Nat.lt_trans b.toNat_lt (by decide))
  rw [Char.ofNat, dif_pos valid]
  rfl

theorem spelling_of_high {b : UInt8} (high : 0x80 ≤ b.toNat) : spelling b = escape b := by
  refine if_neg fun allowed => ?_
  have low := allowed.toNat_lt
  rw [toNat_ofNat_byte] at low
  omega

theorem utf8EncodeChar_of_ascii {c : Char} (ascii : c.toNat < 0x80) :
    String.utf8EncodeChar c = [UInt8.ofNat c.toNat] := by
  have single : c.val.toNat ≤ 127 := Nat.le_of_lt_succ ascii
  simp only [String.utf8EncodeChar, single, if_true]
  rfl

/-- Every byte of a character beyond ASCII is beyond ASCII. -/
theorem high_of_mem_utf8EncodeChar {c : Char} (high : ¬ c.toNat < 0x80) :
    ∀ b ∈ String.utf8EncodeChar c, 0x80 ≤ b.toNat := by
  have more : ¬ c.val.toNat ≤ 127 := fun single => high (Nat.lt_succ_of_le single)
  have bytes : ∀ n : Nat, (UInt8.ofNat n).toNat = n % 256 := fun n => UInt8.toNat_ofNat'
  simp only [String.utf8EncodeChar, more, if_false]
  split
  · simp only [List.mem_cons, List.not_mem_nil, or_false, forall_eq_or_imp, forall_eq, bytes]
    omega
  · split
    · simp only [List.mem_cons, List.not_mem_nil, or_false, forall_eq_or_imp, forall_eq, bytes]
      omega
    · simp only [List.mem_cons, List.not_mem_nil, or_false, forall_eq_or_imp, forall_eq, bytes]
      omega

theorem encodeExcept_isUnreserved (cs : List Char) :
    encodeExcept isUnreserved cs = (Utf8.encode cs).flatMap spelling := by
  rw [encodeExcept, Utf8.encode, List.flatMap_assoc]
  refine List.flatMap_congr fun c _ => ?_
  by_cases ascii : c.toNat < 0x80
  · have byte : (UInt8.ofNat c.toNat).toNat = c.toNat := by
      rw [UInt8.toNat_ofNat']
      omega
    rw [utf8EncodeChar_of_ascii ascii, List.flatMap_singleton, List.flatMap_singleton, spelling,
      byte, Char.ofNat_toNat]
    simp only [isUnreserved_iff]
  · have reserved : ¬ isUnreserved c = true := fun h => ascii (isUnreserved_iff.1 h).toNat_lt
    rw [if_neg reserved]
    refine List.flatMap_congr fun b hb => ?_
    exact (spelling_of_high (high_of_mem_utf8EncodeChar ascii b hb)).symm

/-- Encoding goes byte by byte. -/
theorem toList_encode (s : String) : (encode s).toList = (Utf8.bytesOf s).flatMap spelling := by
  rw [encode, String.toList_ofList, encodeExcept_isUnreserved, Utf8.bytesOf]

theorem spelled_encode (s : String) : Spelled (encode s).toList := by
  rw [toList_encode]
  exact spelled_spellings _

theorem Spelled.mem {c : Char} {cs : List Char} (spelled : Spelled cs) (h : c ∈ cs) :
    c = '%' ∨ IsPlain c := by
  have plain : ∀ {c}, IsHexDigit c → IsPlain c := fun digit =>
    digit.elim (fun decimal => .inr (.inr (.inl decimal)))
      fun letter => .inl ⟨letter.1, Char.le_trans letter.2 (by decide)⟩
  induction spelled with
  | nil => cases h
  | plain allowed more ih =>
    rcases List.mem_cons.1 h with rfl | h
    · exact .inr allowed
    · exact ih h
  | escape highDigit lowDigit more ih =>
    simp only [List.mem_cons] at h
    rcases h with rfl | rfl | rfl | h
    · exact .inl rfl
    · exact .inr (plain highDigit)
    · exact .inr (plain lowDigit)
    · exact ih h

theorem slash_not_mem_encode (s : String) : '/' ∉ (encode s).toList := by
  intro inside
  obtain percent | allowed := (spelled_encode s).mem inside
  · cases percent
  · exact absurd allowed (by decide)

end SdnZones.Percent
