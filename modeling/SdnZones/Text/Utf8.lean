-- SUMMARY: UTF-8: the bytes of a text, and the text of bytes, strictly or with replacements.

/-!
# UTF-8

`encode` gives the bytes of a text. `scan` cuts bytes into characters and ill-formed
runs; a run is the longest beginning of a character that is broken off, so that
`decodeLossy` puts one replacement character for each, and `decode?` refuses any.
-/

namespace SdnZones.Utf8

/-- The bytes of a text. -/
def encode (cs : List Char) : List UInt8 := cs.flatMap String.utf8EncodeChar

/-- The bytes of a string. -/
def bytesOf (s : String) : List UInt8 := encode s.toList

/-- How many bytes a text takes. -/
def byteLength (cs : List Char) : Nat := cs.foldr (fun c n => c.utf8Size + n) 0

/-- What a first byte announces. -/
inductive Lead where
  /-- A character of one byte. -/
  | single
  /-- A character of further bytes, the second of them between `low` and `high`. -/
  | more (bits : Nat) (low high : Nat) (count : Nat)
  /-- No character starts so. -/
  | none

/-- The class of a first byte. -/
def lead (b : Nat) : Lead :=
  if b < 0x80 then .single
  else if b < 0xC2 then .none
  else if b < 0xE0 then .more (b - 0xC0) 0x80 0xBF 1
  else if b = 0xE0 then .more (b - 0xE0) 0xA0 0xBF 2
  else if b = 0xED then .more (b - 0xE0) 0x80 0x9F 2
  else if b < 0xF0 then .more (b - 0xE0) 0x80 0xBF 2
  else if b = 0xF0 then .more (b - 0xF0) 0x90 0xBF 3
  else if b < 0xF4 then .more (b - 0xF0) 0x80 0xBF 3
  else if b = 0xF4 then .more (b - 0xF0) 0x80 0x8F 3
  else .none

/-- Read `count` continuation bytes; the code point, or nothing where they break off, and the
rest. -/
def tail (acc low high : Nat) : Nat → List UInt8 → Option Nat × List UInt8
  | 0, rest => (some acc, rest)
  | _ + 1, [] => (none, [])
  | count + 1, b :: rest =>
    if low ≤ b.toNat ∧ b.toNat ≤ high then
      tail (acc * 64 + (b.toNat - 0x80)) 0x80 0xBF count rest
    else (none, b :: rest)

theorem tail_length (acc low high count : Nat) (bytes : List UInt8) :
    (tail acc low high count bytes).2.length ≤ bytes.length := by
  induction count generalizing acc low high bytes with
  | zero => simp [tail]
  | succ count ih =>
    cases bytes with
    | nil => simp [tail]
    | cons b rest =>
      simp only [tail]
      split
      · exact Nat.le_succ_of_le (ih _ _ _ _)
      · simp

/-- The characters of the bytes; `none` stands for an ill-formed run. -/
def scan : List UInt8 → List (Option Char)
  | [] => []
  | b :: rest =>
    match lead b.toNat with
    | .single => some (Char.ofNat b.toNat) :: scan rest
    | .none => none :: scan rest
    | .more bits low high count =>
      have := tail_length bits low high count rest
      (tail bits low high count rest).1.map Char.ofNat :: scan (tail bits low high count rest).2
termination_by bytes => bytes.length

/-- The text of well-formed bytes. -/
def decode? (bytes : List UInt8) : Option String :=
  ((scan bytes).mapM id).map String.ofList

/-- The text of bytes, with U+FFFD for every ill-formed run. -/
def decodeLossy (bytes : List UInt8) : String :=
  String.ofList ((scan bytes).map (·.getD (Char.ofNat 0xFFFD)))

end SdnZones.Utf8
