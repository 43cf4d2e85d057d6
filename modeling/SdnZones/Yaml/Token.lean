-- SUMMARY: The tokens of YAML text, with the block structure that indentation makes.
import SdnZones.Text.Percent
import SdnZones.Yaml.Folding

/-!
# YAML tokens

`Token.scan` cuts a text into tokens and makes the structure of blocks explicit. A
token that could be the name of a member is remembered until a colon shows that it is
one; the tokens that open a mapping and announce its name are then put in before it.
Such a name ends on its line and takes at most 1024 characters.
-/

namespace SdnZones.Yaml

/-- A tag as it is written. -/
structure TagText where
  handle : List Char
  suffix : List Char

/-- A piece of YAML text. -/
inductive Token where
  | documentStart
  | documentEnd
  | versionDirective (major minor : Nat)
  | tagDirective (handle start : List Char)
  | sequenceStart
  | mappingStart
  | blockEnd
  | flowSequenceStart
  | flowSequenceEnd
  | flowMappingStart
  | flowMappingEnd
  | entry
  | flowEntry
  | key
  | value
  | alias (name : List Char)
  | anchor (name : List Char)
  | tag (t : TagText)
  /-- A scalar; a plain one may be something else than a text. -/
  | scalar (text : List Char) (isPlain : Bool)

/-- A token that may turn out to be a name. -/
structure KeyCandidate where
  /-- If no colon follows it, the text breaks the rules. -/
  required : Bool
  /-- How many tokens stand before it. -/
  position : Nat
  spot : Spot

/-- How far a text has been scanned. -/
structure Scanner where
  rest : List Spot
  /-- The tokens so far, in reverse order. -/
  tokens : List Token := []
  count : Nat := 0
  /-- The indentation of the innermost block. -/
  indent : Int := -1
  /-- The indentations of the blocks around it. -/
  outer : List Int := []
  flowDepth : Nat := 0
  keyAllowed : Bool := true
  /-- The candidate of the innermost collection. -/
  candidate : Option KeyCandidate := none
  /-- The candidates of the collections in brackets or braces around it. -/
  candidates : List (Option KeyCandidate) := []

namespace Scanner

/-- The column of what comes next. -/
def column (s : Scanner) : Nat :=
  match s.rest with
  | [] => 0
  | p :: _ => p.column

/-- Append a token. -/
def emit (s : Scanner) (t : Token) : Scanner :=
  { s with tokens := t :: s.tokens, count := s.count + 1 }

/-- Put a token in after so many tokens. -/
def emitAt (s : Scanner) (position : Nat) (t : Token) : Scanner :=
  let later := s.count - position
  { s with
    tokens := s.tokens.take later ++ t :: s.tokens.drop later
    count := s.count + 1 }

/-! ## Candidates for names -/

/-- A candidate that is still possible at a place. -/
def fresh? (here : Spot) : Option KeyCandidate → Option (Option KeyCandidate)
  | none => some none
  | some k =>
    if k.spot.line < here.line ∨ k.spot.index + 1024 < here.index then
      if k.required then none else some none
    else some (some k)

/-- Forget the candidates that are no longer possible. -/
def dropStale (s : Scanner) : Option Scanner :=
  match s.rest with
  | [] => some s
  | here :: _ =>
    match fresh? here s.candidate, s.candidates.mapM (fresh? here) with
    | some candidate, some candidates =>
      some { s with candidate := candidate, candidates := candidates }
    | _, _ => none

/-- Forget the innermost candidate. -/
def dropCandidate (s : Scanner) : Option Scanner :=
  match s.candidate with
  | some k => if k.required then none else some { s with candidate := none }
  | none => some s

/-- What comes next may be a name. -/
def saveCandidate (s : Scanner) : Option Scanner :=
  match s.rest with
  | [] => some s
  | here :: _ =>
    if s.keyAllowed then
      match s.dropCandidate with
      | none => none
      | some s =>
        let required := s.flowDepth = 0 && s.indent == (here.column : Int)
        some { s with candidate := some ⟨required, s.count, here⟩ }
    else some s

/-! ## Indentation -/

/-- Open a block at a column if it is deeper than the innermost one. -/
def indentTo (s : Scanner) (column : Nat) (position : Nat) (t : Token) : Scanner :=
  if s.flowDepth = 0 ∧ s.indent < (column : Int) then
    { s.emitAt position t with indent := column, outer := s.indent :: s.outer }
  else s

/-- The blocks that end before a column: how many, and what is left of the indentations. -/
def endedBlocks (column : Int) (indent : Int) : List Int → Nat × Int × List Int
  | [] => (0, indent, [])
  | i :: outer =>
    if column < indent then
      let (n, indent, outer) := endedBlocks column i outer
      (n + 1, indent, outer)
    else (0, indent, i :: outer)

/-- Close the blocks that are deeper than a column. -/
def dedentTo (s : Scanner) (column : Int) : Scanner :=
  if s.flowDepth = 0 then
    let (n, indent, outer) := endedBlocks column s.indent s.outer
    { s with
      tokens := List.replicate n Token.blockEnd ++ s.tokens
      count := s.count + n
      indent := indent
      outer := outer }
  else s

/-! ## Single tokens -/

/-- Go on behind so many characters. -/
def skip (s : Scanner) (n : Nat) : Scanner := { s with rest := s.rest.drop n }

/-- A bracket or brace that opens a collection. -/
def openFlow (s : Scanner) (t : Token) : Option Scanner :=
  s.saveCandidate.map fun s =>
    let s := (s.skip 1).emit t
    { s with
      flowDepth := s.flowDepth + 1
      candidates := s.candidate :: s.candidates
      candidate := none
      keyAllowed := true }

/-- A bracket or brace that closes a collection. -/
def closeFlow (s : Scanner) (t : Token) : Option Scanner :=
  s.dropCandidate.map fun s =>
    let s := { (s.skip 1).emit t with keyAllowed := false }
    match s.candidates with
    | candidate :: candidates =>
      { s with flowDepth := s.flowDepth - 1, candidate := candidate, candidates := candidates }
    | [] => s

/-- A comma between items. -/
def flowComma (s : Scanner) : Option Scanner :=
  s.dropCandidate.map fun s => { (s.skip 1).emit .flowEntry with keyAllowed := true }

/-- A dash before an item. -/
def dash (s : Scanner) : Option Scanner :=
  if s.flowDepth = 0 ∧ !s.keyAllowed then none
  else
    (s.indentTo s.column s.count .sequenceStart).dropCandidate.map fun s =>
      { (s.skip 1).emit .entry with keyAllowed := true }

/-- A question mark before a name. -/
def question (s : Scanner) : Option Scanner :=
  if s.flowDepth = 0 ∧ !s.keyAllowed then none
  else
    (s.indentTo s.column s.count .mappingStart).dropCandidate.map fun s =>
      { (s.skip 1).emit .key with keyAllowed := s.flowDepth = 0 }

/-- A colon before a value. -/
def colon (s : Scanner) : Option Scanner :=
  match s.candidate with
  | some k =>
    let s := (s.emitAt k.position .key).indentTo k.spot.column k.position .mappingStart
    some { (s.skip 1).emit .value with candidate := none, keyAllowed := false }
  | none =>
    if s.flowDepth = 0 ∧ !s.keyAllowed then none
    else
      let s := s.indentTo s.column s.count .mappingStart
      some { (s.skip 1).emit .value with keyAllowed := s.flowDepth = 0 }

/-- The mark of a document's start or end. -/
def documentMarker (s : Scanner) (t : Token) : Option Scanner :=
  (s.dedentTo (-1)).dropCandidate.map fun s => { (s.skip 3).emit t with keyAllowed := false }

/-- Whether an anchor may end before what comes next. -/
def endsAnchor (ss : List Spot) : Bool :=
  blankOrEnd ss ||
    match ss with
    | s :: _ => ['?', ':', ',', ']', '\x7d', '%', '@', Char.ofNat 0x60].contains s.char
    | [] => true

/-- An anchor, or an alias of one. -/
def anchor (s : Scanner) (t : List Char → Token) : Option Scanner :=
  match s.saveCandidate with
  | none => none
  | some s =>
    let (name, after) := (s.rest.drop 1).span fun p => isWordChar p.char
    if name.isEmpty || !endsAnchor after then none
    else some { s.emit (t (name.map Spot.char)) with rest := after, keyAllowed := false }

/-! ## Tags and directives -/

/-- A character of the name of a tag. -/
def isTagChar (verbatim : Bool) (c : Char) : Bool :=
  isWordChar c ||
    [';', '/', '?', ':', '@', '&', '=', '+', '$', '.', '%', '!', '~', '*', '\'', '(',
      ')'].contains c ||
    (verbatim && [',', '[', ']'].contains c)

/-- The text of the name of a tag, its percent-escapes resolved. -/
def tagName? (cs : List Char) : Option (List Char) :=
  let stray := (Percent.decodeBytes cs).length + 2 * cs.count '%' != Utf8.byteLength cs
  if stray then none else (Percent.decode? (String.ofList cs)).map String.toList

/-- The name of a tag at the start of a text. -/
def readTagName (verbatim : Bool) (before : List Char) (ss : List Spot) :
    Option (List Char × List Spot) :=
  let (name, rest) := ss.span fun p => isTagChar verbatim p.char
  if name.isEmpty && before.isEmpty then none
  else (tagName? (name.map Spot.char)).map fun cs => (before.drop 1 ++ cs, rest)

/-- The handle of a tag: exclamation marks with a word between them, or a beginning of that. -/
def readHandle : List Spot → Option (List Char × List Spot)
  | [] => none
  | s :: rest =>
    if s.char ≠ '!' then none
    else
      let (word, rest) := rest.span fun p => isWordChar p.char
      let word := word.map Spot.char
      match rest with
      | e :: more =>
        if e.char = '!' then some ('!' :: word ++ ['!'], more) else some ('!' :: word, e :: more)
      | [] => some ('!' :: word, [])

/-- A tag. -/
def readTag (ss : List Spot) : Option (TagText × List Spot) :=
  match ss.map Spot.char with
  | '!' :: '<' :: _ =>
    match readTagName true [] (ss.drop 2) with
    | some (suffix, e :: rest) => if e.char = '>' then some (⟨[], suffix⟩, rest) else none
    | _ => none
  | _ =>
    match readHandle ss with
    | none => none
    | some (handle, rest) =>
      if handle.length ≥ 2 ∧ handle.getLast? = some '!' then
        (readTagName false [] rest).map fun (suffix, rest) => (⟨handle, suffix⟩, rest)
      else
        (readTagName false handle rest).map fun (suffix, rest) =>
          if suffix.isEmpty then (⟨[], ['!']⟩, rest) else (⟨['!'], suffix⟩, rest)

/-- A tag as a token. -/
def tag (s : Scanner) : Option Scanner :=
  match s.saveCandidate with
  | none => none
  | some s =>
    match readTag s.rest with
    | none => none
    | some (t, rest) =>
      let ended :=
        blankOrEnd rest || (s.flowDepth ≠ 0 && (rest.head?.map Spot.char) == some ',')
      if ended then some { s.emit (.tag t) with rest := rest, keyAllowed := false } else none

/-- A number of at most nine digits. -/
def readNumber (ss : List Spot) : Option (Nat × List Spot) :=
  let (digits, rest) := ss.span fun p => p.char.isDigit
  if digits.length > 9 then none
  else (Numeral.nat? 10 (digits.map Spot.char)).map fun n => (n, rest)

/-- The version that a directive names. -/
def readVersion (ss : List Spot) : Option (Token × List Spot) :=
  match readNumber (skipBlanks ss) with
  | some (major, dot :: rest) =>
    if dot.char = '.' then
      (readNumber rest).map fun (minor, rest) => (.versionDirective major minor, rest)
    else none
  | _ => none

/-- The handle that a directive defines. -/
def readTagDirective (ss : List Spot) : Option (Token × List Spot) :=
  match readHandle (skipBlanks ss) with
  | none => none
  | some (handle, rest) =>
    if handle ≠ ['!'] ∧ (handle.length < 2 ∨ handle.getLast? ≠ some '!') then none
    else if rest.isEmpty || !isBlankChar ((rest.head?.map Spot.char).getD ' ') then none
    else
      match readTagName true [] (skipBlanks rest) with
      | some (start, rest) =>
        if blankOrEnd rest then some (.tagDirective handle start, rest) else none
      | none => none

/-- A directive. -/
def directive (s : Scanner) : Option Scanner :=
  match (s.dedentTo (-1)).dropCandidate with
  | none => none
  | some s =>
    let (name, rest) := (s.rest.drop 1).span fun p => isWordChar p.char
    let read :=
      if !blankOrEnd rest then none
      else
        match String.ofList (name.map Spot.char) with
        | "YAML" => readVersion rest
        | "TAG" => readTagDirective rest
        | _ => none
    match read with
    | none => none
    | some (t, rest) =>
      let rest := skipComment (skipBlanks rest)
      if lineEnd rest then some { s.emit t with rest := rest.drop 1, keyAllowed := false } else none

/-! ## Scalars -/

/-- A quoted scalar. -/
def quotedScalar (s : Scanner) (double : Bool) : Option Scanner :=
  match s.saveCandidate with
  | none => none
  | some s =>
    let inside := s.rest.drop 1
    match if double then scanDoubleQuoted {} 0 inside else scanSingleQuoted {} inside with
    | none => none
    | some (text, rest) =>
      some { s.emit (.scalar text false) with rest := rest, keyAllowed := false }

/-- A plain scalar. A line end behind it allows a name to follow. -/
def plainScalar (s : Scanner) : Option Scanner :=
  match s.saveCandidate with
  | none => none
  | some s =>
    match scanPlain (s.flowDepth ≠ 0) (s.indent + 1) {} s.rest with
    | none => none
    | some (p, rest) =>
      some { s.emit (.scalar p.text.reverse true) with rest := rest, keyAllowed := p.gap.broken }

/-- A block scalar. -/
def blockScalar (s : Scanner) (literal : Bool) : Option Scanner :=
  match s.dropCandidate with
  | none => none
  | some s =>
    match scanBlock literal s.indent (s.rest.drop 1) with
    | none => none
    | some (text, rest) =>
      some { s.emit (.scalar text false) with rest := rest, keyAllowed := true }

/-! ## The next token -/

/-- The byte order mark. -/
def byteOrderMark : Char := Char.ofNat 0xFEFF

/-- Skip blanks, comments and empty lines; a new line allows a name to follow. -/
def skipToToken (flow : Bool) (keyAllowed : Bool) (inComment : Bool) :
    List Spot → Bool × List Spot
  | [] => (keyAllowed, [])
  | s :: rest =>
    if isBreak s.char then skipToToken flow (keyAllowed || !flow) false rest
    else if inComment then skipToToken flow keyAllowed true rest
    else if s.char = ' ' ∨ (s.char = '\t' ∧ (flow ∨ !keyAllowed)) ∨
        (s.char = byteOrderMark ∧ s.column = 0) then
      skipToToken flow keyAllowed false rest
    else if s.char = '#' then skipToToken flow keyAllowed true rest
    else (keyAllowed, s :: rest)

/-- A character that cannot start a plain scalar. -/
def isIndicator (c : Char) : Bool :=
  ['-', '?', ':', ',', '[', ']', '\x7b', '\x7d', '#', '&', '*', '!', '|', '>', '\'', '"', '%', '@',
    Char.ofNat 0x60].contains c

/-- Scan the token that starts with a character. -/
def scanToken (s : Scanner) (here : Spot) (after : List Spot) : Option Scanner :=
  let c := here.char
  let flow := s.flowDepth ≠ 0
  let spaced := blankOrEnd after
  if here.column = 0 ∧ c = '%' then s.directive
  else if isMarker '-' (here :: after) then s.documentMarker .documentStart
  else if isMarker '.' (here :: after) then s.documentMarker .documentEnd
  else if c = '[' then s.openFlow .flowSequenceStart
  else if c = '\x7b' then s.openFlow .flowMappingStart
  else if c = ']' then s.closeFlow .flowSequenceEnd
  else if c = '\x7d' then s.closeFlow .flowMappingEnd
  else if c = ',' then s.flowComma
  else if c = '-' ∧ spaced then s.dash
  else if c = '?' ∧ (flow ∨ spaced) then s.question
  else if c = ':' ∧ (flow ∨ spaced) then s.colon
  else if c = '*' then s.anchor .alias
  else if c = '&' then s.anchor .anchor
  else if c = '!' then s.tag
  else if c = '|' ∧ !flow then s.blockScalar true
  else if c = '>' ∧ !flow then s.blockScalar false
  else if c = '\'' then s.quotedScalar false
  else if c = '"' then s.quotedScalar true
  else if isBlankOrBreak c then none
  else if !isIndicator c ∨ c = '-' ∨ (!flow ∧ (c = '?' ∨ c = ':')) then s.plainScalar
  else none

/-- Scan to the end of the text. -/
def scanAll : Nat → Scanner → Option Scanner
  | 0, _ => none
  | fuel + 1, s =>
    let (keyAllowed, rest) := skipToToken (s.flowDepth ≠ 0) s.keyAllowed false s.rest
    match ({ s with keyAllowed := keyAllowed, rest := rest }).dropStale with
    | none => none
    | some s =>
      match s.rest with
      | [] => (s.dedentTo (-1)).dropCandidate
      | here :: after =>
        match (s.dedentTo here.column).scanToken here after with
        | none => none
        | some s => scanAll fuel s

end Scanner

/-- The tokens of a text, if it keeps to the rules. -/
def Token.scan (text : String) : Option (List Token) :=
  let cs := text.toList
  if cs.all isAllowed then
    let cs :=
      match cs with
      | c :: rest => if c = Scanner.byteOrderMark then rest else c :: rest
      | [] => []
    let ss := spots cs
    (Scanner.scanAll (ss.length + 1) { rest := ss }).map fun s => s.tokens.reverse
  else none

end SdnZones.Yaml
