-- SUMMARY: Scanning YAML scalars: plain, quoted, and blocks, with folding of lines.
import SdnZones.Yaml.Spot

/-!
# Scanning scalars

Inside a scalar that goes over several lines a single line end is a space, further ones
are kept, and blanks around line ends are dropped. In blocks the indentation is dropped
and folding depends on the kind of block. Nothing comes of a scalar that breaks the
rules.
-/

namespace SdnZones.Yaml

/-! ## Gaps between words -/

/-- Blanks and line ends between two words, in reverse order. -/
structure Gap where
  blanks : List Char := []
  breaks : List Char := []
  /-- The gap begins with an escaped line end. -/
  escaped : Bool := false

namespace Gap

/-- Whether the gap has a line end. -/
def broken (g : Gap) : Bool := g.escaped || !g.breaks.isEmpty

/-- Whether there is a gap at all. -/
def isEmpty (g : Gap) : Bool := !g.broken && g.blanks.isEmpty

/-- One more blank; blanks after a line end do not count. -/
def addBlank (g : Gap) (c : Char) : Gap :=
  if g.broken then g else { g with blanks := c :: g.blanks }

/-- One more line end; the blanks before it do not count. -/
def addBreak (g : Gap) (c : Char) : Gap := { g with blanks := [], breaks := c :: g.breaks }

/-- What the gap becomes in the text, in reverse order. -/
def folded (g : Gap) : List Char :=
  if g.escaped then g.breaks
  else
    match g.breaks.reverse with
    | [] => g.blanks
    | '\n' :: [] => [' ']
    | '\n' :: more => more.reverse
    | _ => g.breaks

end Gap

/-! ## Plain scalars -/

/-- A scalar as far as it has been scanned, its text in reverse order. -/
structure Partial where
  text : List Char := []
  gap : Gap := {}
  inWord : Bool := true

/-- The text with the gap and one more character. -/
def Partial.push (p : Partial) (c : Char) : Partial :=
  ⟨c :: (p.gap.folded ++ p.text), {}, true⟩

/-- A character that ends a plain scalar inside brackets or braces. -/
def isFlowIndicator (c : Char) : Bool := [',', '[', ']', '\x7b', '\x7d'].contains c

/-- Whether a plain scalar ends before a character inside a word. -/
def endsPlain (flow : Bool) (c : Char) (rest : List Spot) : Bool :=
  (c == ':' && blankOrEnd rest) || (flow && isFlowIndicator c)

/-- Whether a colon stands where none may stand inside brackets or braces. -/
def badColon (flow : Bool) (c : Char) : List Spot → Bool
  | [] => false
  | s :: _ => flow && c == ':' && (isFlowIndicator s.char || s.char == '?')

/-- Scan a plain scalar; further lines have to be indented. -/
def scanPlain (flow : Bool) (indent : Int) (p : Partial) : List Spot → Option (Partial × List Spot)
  | [] => some (p, [])
  | s :: rest =>
    let c := s.char
    if isBlankChar c then
      if p.gap.broken && decide ((s.column : Int) < indent) && c == '\t' then none
      else scanPlain flow indent { p with gap := p.gap.addBlank c, inWord := false } rest
    else if isBreak c then
      scanPlain flow indent { p with gap := p.gap.addBreak c, inWord := false } rest
    else if !p.inWord && ((!flow && decide ((s.column : Int) < indent)) || c == '#' ||
        isDocumentMarker (s :: rest)) then
      some (p, s :: rest)
    else if badColon flow c rest then none
    else if endsPlain flow c rest then some (p, s :: rest)
    else scanPlain flow indent (p.push c) rest

/-! ## Quoted scalars -/

/-- Scan the rest of a scalar in single quotes. -/
def scanSingleQuoted (p : Partial) : List Spot → Option (List Char × List Spot)
  | [] => none
  | s :: rest =>
    let c := s.char
    if isBlankChar c then
      scanSingleQuoted { p with gap := p.gap.addBlank c, inWord := false } rest
    else if isBreak c then
      scanSingleQuoted { p with gap := p.gap.addBreak c, inWord := false } rest
    else if !p.inWord && isDocumentMarker (s :: rest) then none
    else if c = '\'' then
      match rest with
      | t :: more =>
        if t.char = '\'' then scanSingleQuoted (p.push c) more
        else some ((p.gap.folded ++ p.text).reverse, t :: more)
      | [] => some ((p.gap.folded ++ p.text).reverse, [])
    else scanSingleQuoted (p.push c) rest

/-- What an escape stands for: a character, or the code of some hexadecimal digits. -/
inductive Escape where
  | char (c : Char)
  | code (digits : Nat)

/-- The escape of a letter. -/
def escape? : Char → Option Escape
  | '0' => some (.char '\x00')
  | 'a' => some (.char '\x07')
  | 'b' => some (.char '\x08')
  | 't' => some (.char '\t')
  | '\t' => some (.char '\t')
  | 'n' => some (.char '\n')
  | 'v' => some (.char '\x0b')
  | 'f' => some (.char '\x0c')
  | 'r' => some (.char '\r')
  | 'e' => some (.char '\x1b')
  | ' ' => some (.char ' ')
  | '"' => some (.char '"')
  | '/' => some (.char '/')
  | '\\' => some (.char '\\')
  | 'N' => some (.char '\x85')
  | '_' => some (.char '\xa0')
  | 'L' => some (.char '\u2028')
  | 'P' => some (.char '\u2029')
  | 'x' => some (.code 2)
  | 'u' => some (.code 4)
  | 'U' => some (.code 8)
  | _ => none

/-- The character of a code point, if it is one. -/
def charOfCode? (n : Nat) : Option Char :=
  if n < 0xD800 ∨ (0xDFFF < n ∧ n ≤ 0x10FFFF) then some (Char.ofNat n) else none

/-- The character of hexadecimal digits. -/
def charOfDigits? (count : Nat) (ss : List Spot) : Option Char :=
  let digits := (ss.take count).map Spot.char
  if digits.length < count then none
  else (Numeral.nat? 16 digits).bind charOfCode?

/-- Scan the rest of a scalar in double quotes; `skip` characters belong to an escape. -/
def scanDoubleQuoted (p : Partial) (skip : Nat) : List Spot → Option (List Char × List Spot)
  | [] => none
  | s :: rest =>
    match skip with
    | skip + 1 => scanDoubleQuoted p skip rest
    | 0 =>
      let c := s.char
      if isBlankChar c then
        scanDoubleQuoted { p with gap := p.gap.addBlank c, inWord := false } 0 rest
      else if isBreak c then
        scanDoubleQuoted { p with gap := p.gap.addBreak c, inWord := false } 0 rest
      else if !p.inWord && isDocumentMarker (s :: rest) then none
      else if c = '"' then some ((p.gap.folded ++ p.text).reverse, rest)
      else if c = '\\' then
        match rest with
        | [] => none
        | t :: more =>
          if isBreak t.char then
            let text := p.gap.folded ++ p.text
            scanDoubleQuoted { text := text, gap := { escaped := true }, inWord := false } 1 rest
          else
            match escape? t.char with
            | none => none
            | some (.char e) => scanDoubleQuoted (p.push e) 1 rest
            | some (.code count) =>
              match charOfDigits? count more with
              | none => none
              | some e => scanDoubleQuoted (p.push e) (1 + count) rest
      else scanDoubleQuoted (p.push c) 0 rest

/-! ## Blocks -/

/-- What the head of a block says. -/
structure BlockHead where
  chomping : Scalar.Chomping := .clip
  /-- The indentation that it names. -/
  increment : Option Nat := none

/-- The chomping of a sign. -/
def chompingOf? : Char → Option Scalar.Chomping
  | '+' => some .keep
  | '-' => some .strip
  | _ => none

/-- Read the chomping sign, if one stands at the start. -/
def readChomping (h : BlockHead) : List Spot → BlockHead × List Spot
  | [] => (h, [])
  | s :: rest =>
    match chompingOf? s.char with
    | some c => ({ h with chomping := c }, rest)
    | none => (h, s :: rest)

/-- Read the indentation, if it stands at the start; it may not be zero. -/
def readIncrement (h : BlockHead) : List Spot → Option (BlockHead × List Spot)
  | [] => some (h, [])
  | s :: rest =>
    if s.char = '0' then none
    else if s.char.isDigit then
      some ({ h with increment := some (s.char.toNat - '0'.toNat) }, rest)
    else some (h, s :: rest)

/-- Read the head of a block to the end of its line. -/
def readBlockHead (ss : List Spot) : Option (BlockHead × List Spot) :=
  let (h, afterSign) := readChomping {} ss
  match readIncrement h afterSign with
  | none => none
  | some (h, rest) =>
    let (h, rest) := if h.chomping = .clip then readChomping h rest else (h, rest)
    match skipComment (skipBlanks rest) with
    | [] => some (h, [])
    | s :: rest => if isBreak s.char then some (h, rest) else none

/-- The empty lines before content: their ends in reverse order, and the widest indentation.
An `indent` of zero is not known yet. -/
def skipEmptyLines (indent widest : Nat) (breaks : List Char) :
    List Spot → Option (List Char × Nat × List Spot)
  | [] => some (breaks, widest, [])
  | s :: rest =>
    let inside := indent = 0 ∨ s.column < indent
    if s.char = ' ' ∧ inside then skipEmptyLines indent (max widest (s.column + 1)) breaks rest
    else if s.char = '\t' ∧ inside then none
    else if isBreak s.char then skipEmptyLines indent (max widest s.column) (s.char :: breaks) rest
    else some (breaks, max widest s.column, s :: rest)

/-- A block as far as it has been scanned, texts in reverse order. -/
structure BlockState where
  text : List Char := []
  /-- The end of the last line. -/
  lastBreak : List Char := []
  emptyBreaks : List Char := []
  /-- The last line began with a blank. -/
  blankStart : Bool := false

/-- The text with what stands between two lines. -/
def BlockState.joined (b : BlockState) (literal : Bool) (blankNext : Bool) : List Char :=
  if !literal && b.lastBreak == ['\n'] && !b.blankStart && !blankNext then
    b.emptyBreaks ++ ((if b.emptyBreaks.isEmpty then [' '] else []) ++ b.text)
  else b.emptyBreaks ++ (b.lastBreak ++ b.text)

/-- Scan the lines of a block. -/
def scanBlockLines (literal : Bool) (indent : Nat) :
    Nat → BlockState → List Spot → Option (BlockState × List Spot)
  | 0, b, ss => some (b, ss)
  | _, b, [] => some (b, [])
  | fuel + 1, b, s :: rest =>
    if s.column ≠ indent then some (b, s :: rest)
    else
      let blank := isBlankChar s.char
      let text := b.joined literal blank
      let (line, after) := (s :: rest).span fun s => !isBreak s.char
      let text := (line.map Spot.char).reverse ++ text
      let (lastBreak, after) :=
        match after with
        | [] => ([], [])
        | e :: more => ([e.char], more)
      match skipEmptyLines indent 0 [] after with
      | none => none
      | some (breaks, _, after) =>
        scanBlockLines literal indent fuel ⟨text, lastBreak, breaks, blank⟩ after

/-- Scan a block inside a collection of the given indentation. -/
def scanBlock (literal : Bool) (parent : Int) (ss : List Spot) : Option (List Char × List Spot) :=
  match readBlockHead ss with
  | none => none
  | some (h, rest) =>
    let named := h.increment.map fun n => (if 0 ≤ parent then parent.toNat else 0) + n
    match skipEmptyLines (named.getD 0) 0 [] rest with
    | none => none
    | some (breaks, widest, rest) =>
      let least := max 1 (parent + 1).toNat
      let indent := named.getD (max widest least)
      match scanBlockLines literal indent rest.length { emptyBreaks := breaks } rest with
      | none => none
      | some (b, rest) =>
        let text :=
          match h.chomping with
          | .strip => b.text
          | .clip => b.lastBreak ++ b.text
          | .keep => b.emptyBreaks ++ (b.lastBreak ++ b.text)
        some (text.reverse, rest)

end SdnZones.Yaml
