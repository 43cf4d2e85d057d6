-- SUMMARY: The characters of a YAML text with their places.
import SdnZones.Yaml.Scalar

/-!
# Places in YAML text

Line ends of all kinds but two count as new lines; the line and paragraph separators
end a line and are kept. Every character knows its line and column, which decide what a
YAML text means.
-/

namespace SdnZones.Yaml

/-- A character at its place. -/
structure Spot where
  char : Char
  index : Nat
  line : Nat
  column : Nat

/-- Line ends as new lines. -/
def normalizeBreaks : List Char → List Char
  | [] => []
  | '\r' :: '\n' :: rest => '\n' :: normalizeBreaks rest
  | '\r' :: rest => '\n' :: normalizeBreaks rest
  | '\x85' :: rest => '\n' :: normalizeBreaks rest
  | c :: rest => c :: normalizeBreaks rest

/-- Characters with their places, from a given place on. -/
def spotsFrom (index line column : Nat) : List Char → List Spot
  | [] => []
  | c :: rest =>
    ⟨c, index, line, column⟩ ::
      if isBreak c then spotsFrom (index + 1) (line + 1) 0 rest
      else spotsFrom (index + 1) line (column + 1) rest

/-- The characters of a text with their places. -/
def spots (cs : List Char) : List Spot := spotsFrom 0 0 0 (normalizeBreaks cs)

/-- A character that a YAML text may hold. -/
def isAllowed (c : Char) : Bool :=
  let n := c.toNat
  n == 0x09 || n == 0x0A || n == 0x0D || (0x20 ≤ n && n ≤ 0x7E) || n == 0x85 ||
    (0xA0 ≤ n && n != 0xFFFE && n != 0xFFFF)

/-- A space or a tab. -/
def isBlankChar (c : Char) : Bool := c == ' ' || c == '\t'

/-- Whether a blank, a line end or nothing stands at the start. -/
def blankOrEnd : List Spot → Bool
  | [] => true
  | s :: _ => isBlankOrBreak s.char

/-- Whether a line end or nothing stands at the start. -/
def lineEnd : List Spot → Bool
  | [] => true
  | s :: _ => isBreak s.char

/-- Whether three equal marks stand at the start of a line with a blank behind them. -/
def isMarker (mark : Char) : List Spot → Bool
  | a :: b :: c :: rest =>
    a.column == 0 && a.char == mark && b.char == mark && c.char == mark && blankOrEnd rest
  | _ => false

/-- Whether a document starts or ends at the start of a line. -/
def isDocumentMarker (ss : List Spot) : Bool := isMarker '-' ss || isMarker '.' ss

/-- A character of names. -/
def isWordChar (c : Char) : Bool := c.isAlphanum || c == '_' || c == '-'

/-- What comes after the blanks at the start. -/
def skipBlanks (ss : List Spot) : List Spot := ss.dropWhile fun s => isBlankChar s.char

/-- What comes after a comment that may stand at the start. -/
def skipComment : List Spot → List Spot
  | [] => []
  | s :: rest => if s.char = '#' then (s :: rest).dropWhile fun s => !isBreak s.char else s :: rest

end SdnZones.Yaml
