-- SUMMARY: Scanning the UTF-8 bytes of a text gives its characters back.
import SdnZones.Text.Utf8

/-!
# UTF-8 round trip

`scan` reads the bytes of one character as that character and leaves the rest alone
(`scan_utf8EncodeChar_append`); by induction over a text `decode?` undoes `bytesOf`. The
four lengths of a character are four cases, each with the class of its first byte.
-/

namespace SdnZones.Utf8

/-! ## Continuation bytes -/

/-- The continuation byte that carries the lowest six bits of a number. -/
private def continuation (n : Nat) : UInt8 := UInt8.ofNat (n % 0x40 + 0x80)

private theorem toNat_ofNat_lt {n : Nat} (h : n < 256) : (UInt8.ofNat n).toNat = n := by
  simp [Nat.mod_eq_of_lt h]

private theorem tail_continuation {acc low high count n : Nat} {rest : List UInt8}
    (hlow : low ≤ n % 0x40 + 0x80) (hhigh : n % 0x40 + 0x80 ≤ high) :
    tail acc low high (count + 1) (continuation n :: rest) =
      tail (acc * 64 + n % 0x40) 0x80 0xBF count rest := by
  have hn : (continuation n).toNat = n % 0x40 + 0x80 := toNat_ofNat_lt (by omega)
  simp [tail, hn, hlow, hhigh]

/-- Within the full range every continuation byte is read. -/
private theorem tail_any_continuation {acc count n : Nat} {rest : List UInt8} :
    tail acc 0x80 0xBF (count + 1) (continuation n :: rest) =
      tail (acc * 64 + n % 0x40) 0x80 0xBF count rest :=
  tail_continuation (by omega) (by omega)

/-! ## First bytes -/

private theorem lead_two {v : Nat} (hlow : 0x7F < v) (hhigh : v ≤ 0x7FF) :
    lead (v / 64 % 0x20 + 0xC0) = .more (v / 64) 0x80 0xBF 1 := by
  have hbits : v / 64 % 0x20 = v / 64 := by omega
  unfold lead
  grind

/-- After `E0` and `ED` the second byte is bounded, so that there are neither overlong forms nor
surrogates. -/
private theorem lead_three {v : Nat} (hlow : 0x7FF < v) (hhigh : v ≤ 0xFFFF)
    (hscalar : v < 0xD800 ∨ 0xDFFF < v) :
    ∃ low high, lead (v / 4096 % 0x10 + 0xE0) = .more (v / 4096) low high 2 ∧
      low ≤ v / 64 % 0x40 + 0x80 ∧ v / 64 % 0x40 + 0x80 ≤ high := by
  have hbits : v / 4096 % 0x10 = v / 4096 := by omega
  rw [hbits]
  by_cases first : v / 4096 = 0
  · exact ⟨0xA0, 0xBF, by rw [first]; rfl, by omega, by omega⟩
  · by_cases surrogate : v / 4096 = 13
    · exact ⟨0x80, 0x9F, by rw [surrogate]; rfl, by omega, by omega⟩
    · refine ⟨0x80, 0xBF, ?_, by omega, by omega⟩
      unfold lead
      grind

/-- After `F0` and `F4` the second byte is bounded, so that there are neither overlong forms nor
code points above the last one. -/
private theorem lead_four {v : Nat} (hlow : 0xFFFF < v) (hhigh : v < 0x110000) :
    ∃ low high, lead (v / 262144 % 0x08 + 0xF0) = .more (v / 262144) low high 3 ∧
      low ≤ v / 4096 % 0x40 + 0x80 ∧ v / 4096 % 0x40 + 0x80 ≤ high := by
  have hbits : v / 262144 % 0x08 = v / 262144 := by omega
  rw [hbits]
  by_cases first : v / 262144 = 0
  · exact ⟨0x90, 0xBF, by rw [first]; rfl, by omega, by omega⟩
  · by_cases last : v / 262144 = 4
    · exact ⟨0x80, 0x8F, by rw [last]; rfl, by omega, by omega⟩
    · refine ⟨0x80, 0xBF, ?_, by omega, by omega⟩
      unfold lead
      grind

/-! ## One character -/

private theorem scan_single {b : UInt8} {rest : List UInt8} (h : b.toNat < 0x80) :
    scan (b :: rest) = some (Char.ofNat b.toNat) :: scan rest := by
  rw [scan]
  simp [lead, h]

private theorem scan_more {f bits low high count n : Nat} {rest left : List UInt8}
    (hf : f < 256) (hlead : lead f = .more bits low high count)
    (htail : tail bits low high count rest = (some n, left)) :
    scan (UInt8.ofNat f :: rest) = some (Char.ofNat n) :: scan left := by
  rw [scan]
  simp only [toNat_ofNat_lt hf, hlead, htail, Option.map_some]

/-- Scanning the bytes of a character reads that character and nothing else. -/
theorem scan_utf8EncodeChar_append (c : Char) (rest : List UInt8) :
    scan (String.utf8EncodeChar c ++ rest) = some c :: scan rest := by
  have scalar : c.val.toNat < 0xD800 ∨ (0xDFFF < c.val.toNat ∧ c.val.toNat < 0x110000) := c.valid
  have back : Char.ofNat c.val.toNat = c := Char.ofNat_toNat c
  generalize hv : c.val.toNat = v at scalar back
  simp only [String.utf8EncodeChar, hv]
  split
  · have hb : (UInt8.ofNat v).toNat = v := toNat_ofNat_lt (by omega)
    rw [List.cons_append, List.nil_append, scan_single (by omega), hb, back]
  · split
    · have htail : tail (v / 64) 0x80 0xBF 1 (continuation v :: rest) = (some v, rest) := by
        rw [tail_any_continuation, tail]
        congr 2
        omega
      exact (scan_more (by omega) (lead_two (by omega) (by omega)) htail).trans (by rw [back])
    · split
      · obtain ⟨low, high, hlead, hlow, hhigh⟩ :=
          lead_three (v := v) (by omega) (by omega) (by omega)
        have htail : tail (v / 4096) low high 2
            (continuation (v / 64) :: continuation v :: rest) = (some v, rest) := by
          rw [tail_continuation hlow hhigh, tail_any_continuation, tail]
          congr 2
          omega
        exact (scan_more (by omega) hlead htail).trans (by rw [back])
      · obtain ⟨low, high, hlead, hlow, hhigh⟩ := lead_four (v := v) (by omega) (by omega)
        have htail : tail (v / 262144) low high 3
            (continuation (v / 4096) :: continuation (v / 64) :: continuation v :: rest) =
              (some v, rest) := by
          rw [tail_continuation hlow hhigh, tail_any_continuation, tail_any_continuation, tail]
          congr 2
          omega
        exact (scan_more (by omega) hlead htail).trans (by rw [back])

/-! ## Texts -/

theorem scan_encode (cs : List Char) : scan (encode cs) = cs.map some := by
  induction cs with
  | nil => simp [encode, scan]
  | cons c cs ih =>
    rw [encode, List.flatMap_cons, scan_utf8EncodeChar_append, List.map_cons]
    exact congrArg _ ih

theorem decode?_encode (cs : List Char) : decode? (encode cs) = some (String.ofList cs) := by
  have hmap : (cs.map some).mapM id = some cs := by
    induction cs with
    | nil => rfl
    | cons c cs ih => simp [ih]
  rw [decode?, scan_encode, hmap, Option.map_some]

/-- The bytes of a text are well-formed and stand for that text. -/
theorem decode?_bytesOf (s : String) : decode? (bytesOf s) = some s := by
  rw [bytesOf, decode?_encode, String.ofList_toList]

end SdnZones.Utf8
