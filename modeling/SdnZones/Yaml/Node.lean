-- SUMMARY: The nodes of YAML documents, and reading a document as a datum.
import SdnZones.Yaml.Token

/-!
# YAML nodes

A node is a scalar, a list or a mapping. `Node.documents` puts the tokens of a text
together to the nodes of its documents; an alias becomes the node that it stands for.
`Yaml.read` takes a text that holds at most one document.
-/

namespace SdnZones.Yaml

/-- A node of a document. -/
inductive Node where
  /-- A scalar with the name of its tag. -/
  | scalar (text : String) (isPlain : Bool) (tag : Option String)
  | list (items : List Node)
  | mapping (members : List (Node × Node))
  /-- An alias of a node that it stands in itself. -/
  | cycle

namespace Node

/-- The node where nothing is written. -/
def empty : Node := .scalar "" true none

/-- What is left of the tokens, and what is known while nodes are put together. -/
structure State where
  tokens : List Token
  anchors : List (List Char × Node) := []
  tags : List (List Char × List Char) := []

/-- The state behind the first token. -/
def State.next (s : State) : State := { s with tokens := s.tokens.tail }

/-- The state with a node under an anchor. -/
def State.record (s : State) (anchor : Option (List Char)) (n : Node) : State :=
  match anchor with
  | some name => { s with anchors := (name, n) :: s.anchors }
  | none => s

/-- The handles that are known without a directive. -/
def standardTags : List (List Char × List Char) :=
  [(['!'], ['!']), (['!', '!'], "tag:yaml.org,2002:".toList)]

/-- The name of a tag; the tag without one counts as none. -/
def resolveTag (s : State) : Option TagText → Option (Option String)
  | none => some none
  | some t =>
    let name :=
      if t.handle.isEmpty then some t.suffix
      else ((s.tags ++ standardTags).lookup t.handle).map (· ++ t.suffix)
    name.map fun cs => if cs = ['!'] then none else some (String.ofList cs)

/-- The anchor and the tag before a node, in either order. -/
def properties (s : State) : Option (List Char) × Option TagText × State :=
  match s.tokens with
  | .anchor a :: .tag t :: rest => (some a, some t, { s with tokens := rest })
  | .tag t :: .anchor a :: rest => (some a, some t, { s with tokens := rest })
  | .anchor a :: rest => (some a, none, { s with tokens := rest })
  | .tag t :: rest => (none, some t, { s with tokens := rest })
  | _ => (none, none, s)

/-- Whether an item of a block is empty, by the token behind its dash. -/
def endsItem : List Token → Bool
  | .entry :: _ => true
  | .blockEnd :: _ => true
  | _ => false

/-- Whether an item of a list without indentation is empty. -/
def endsIndentlessItem : List Token → Bool
  | .entry :: _ => true
  | .key :: _ => true
  | .value :: _ => true
  | .blockEnd :: _ => true
  | _ => false

/-- Whether a name or a value in a block mapping is empty. -/
def endsPart : List Token → Bool
  | .key :: _ => true
  | .value :: _ => true
  | .blockEnd :: _ => true
  | _ => false

/-- Whether a name in braces or brackets is empty. -/
def endsFlowName : List Token → Bool
  | .value :: _ => true
  | .flowEntry :: _ => true
  | .flowMappingEnd :: _ => true
  | .flowSequenceEnd :: _ => true
  | _ => false

/-- Whether a value in braces or brackets is empty. -/
def endsFlowValue : List Token → Bool
  | .flowEntry :: _ => true
  | .flowMappingEnd :: _ => true
  | .flowSequenceEnd :: _ => true
  | _ => false

mutual

/-- A node at the start of the tokens. -/
def compose (block indentless : Bool) : Nat → State → Option (Node × State)
  | 0, _ => none
  | fuel + 1, s =>
    match s.tokens with
    | .alias name :: _ => (s.anchors.lookup name).map fun n => (n, s.next)
    | _ =>
      let (anchor, tagText, s) := properties s
      match resolveTag s tagText with
      | none => none
      | some tag =>
        let finish (r : Option (Node × State)) : Option (Node × State) :=
          r.map fun (n, s) => (n, s.record anchor n)
        let opened := s.record anchor .cycle
        match s.tokens, block, indentless with
        | .entry :: _, _, true => finish (composeIndentless [] fuel opened)
        | .scalar text isPlain :: _, _, _ =>
          finish (some (.scalar (String.ofList text) isPlain tag, s.next))
        | .flowSequenceStart :: _, _, _ => finish (composeFlowItems [] fuel opened.next)
        | .flowMappingStart :: _, _, _ => finish (composeFlowMembers [] fuel opened.next)
        | .sequenceStart :: _, true, _ => finish (composeItems [] fuel opened.next)
        | .mappingStart :: _, true, _ => finish (composeMembers [] fuel opened.next)
        | _, _, _ =>
          if anchor.isSome || tagText.isSome then finish (some (.scalar "" true tag, s)) else none

/-- The items of a block list; those before stand in reverse order. -/
def composeItems (before : List Node) : Nat → State → Option (Node × State)
  | 0, _ => none
  | fuel + 1, s =>
    match s.tokens with
    | .blockEnd :: _ => some (.list before.reverse, s.next)
    | .entry :: rest =>
      if endsItem rest then composeItems (empty :: before) fuel s.next
      else
        match compose true false fuel s.next with
        | some (n, s) => composeItems (n :: before) fuel s
        | none => none
    | _ => none

/-- The items of a list that is no deeper than the mapping around it. -/
def composeIndentless (before : List Node) : Nat → State → Option (Node × State)
  | 0, _ => none
  | fuel + 1, s =>
    match s.tokens with
    | .entry :: rest =>
      if endsIndentlessItem rest then composeIndentless (empty :: before) fuel s.next
      else
        match compose true false fuel s.next with
        | some (n, s) => composeIndentless (n :: before) fuel s
        | none => none
    | _ => some (.list before.reverse, s)

/-- The members of a block mapping. -/
def composeMembers (before : List (Node × Node)) : Nat → State → Option (Node × State)
  | 0, _ => none
  | fuel + 1, s =>
    match s.tokens with
    | .blockEnd :: _ => some (.mapping before.reverse, s.next)
    | .key :: rest =>
      let name := if endsPart rest then some (empty, s.next) else compose true true fuel s.next
      match name with
      | none => none
      | some (name, s) =>
        match composeValue fuel s with
        | some (v, s) => composeMembers ((name, v) :: before) fuel s
        | none => none
    | _ => none

/-- The value of a member of a block mapping. -/
def composeValue : Nat → State → Option (Node × State)
  | 0, _ => none
  | fuel + 1, s =>
    match s.tokens with
    | .value :: rest =>
    if endsPart rest then some (empty, s.next) else compose true true fuel s.next
    | _ => some (empty, s)

/-- The items of a list in brackets. -/
def composeFlowItems (before : List Node) : Nat → State → Option (Node × State)
  | 0, _ => none
  | fuel + 1, s =>
    match s.tokens with
    | .flowSequenceEnd :: _ => some (.list before.reverse, s.next)
    | _ =>
      match if before.isEmpty then some s else skipComma s with
      | none => none
      | some s =>
        match s.tokens with
        | .flowSequenceEnd :: _ => some (.list before.reverse, s.next)
        | .key :: _ =>
          match composePair fuel s.next with
          | some (n, s) => composeFlowItems (n :: before) fuel s
          | none => none
        | _ =>
          match compose false false fuel s with
          | some (n, s) => composeFlowItems (n :: before) fuel s
          | none => none

/-- A single member that stands as an item in brackets. -/
def composePair : Nat → State → Option (Node × State)
  | 0, _ => none
  | fuel + 1, s =>
    let name :=
      if endsFlowName s.tokens then some (empty, s.next) else compose false false fuel s
    match name with
    | none => none
    | some (name, s) =>
      (composeFlowValue fuel s).map fun (v, s) => (.mapping [(name, v)], s)

/-- The members of a mapping in braces. -/
def composeFlowMembers (before : List (Node × Node)) : Nat → State → Option (Node × State)
  | 0, _ => none
  | fuel + 1, s =>
    match s.tokens with
    | .flowMappingEnd :: _ => some (.mapping before.reverse, s.next)
    | _ =>
      match if before.isEmpty then some s else skipComma s with
      | none => none
      | some s =>
        match s.tokens with
        | .flowMappingEnd :: _ => some (.mapping before.reverse, s.next)
        | .key :: rest =>
          let name :=
            if endsFlowName rest then some (empty, s.next) else compose false false fuel s.next
          match name with
          | none => none
          | some (name, s) =>
            match composeFlowValue fuel s with
            | some (v, s) => composeFlowMembers ((name, v) :: before) fuel s
            | none => none
        | _ =>
          match compose false false fuel s with
          | some (name, s) => composeFlowMembers ((name, empty) :: before) fuel s
          | none => none

/-- The value of a member in braces or brackets. -/
def composeFlowValue : Nat → State → Option (Node × State)
  | 0, _ => none
  | fuel + 1, s =>
    match s.tokens with
    | .value :: rest =>
      if endsFlowValue rest then some (empty, s.next) else compose false false fuel s.next
    | _ => some (empty, s)

/-- The state behind a comma. -/
def skipComma (s : State) : Option State :=
  match s.tokens with
  | .flowEntry :: _ => some s.next
  | _ => none

end

/-! ## Documents -/

/-- Take the directives before a document. -/
def directives (versioned : Bool) (tags : List (List Char × List Char)) :
    List Token → Option (List (List Char × List Char) × List Token)
  | .versionDirective major minor :: rest =>
    if versioned || major ≠ 1 || (minor ≠ 1 && minor ≠ 2) then none
    else directives true tags rest
  | .tagDirective handle start :: rest =>
    if (tags.lookup handle).isSome then none
    else directives versioned ((handle, start) :: tags) rest
  | rest => some (tags, rest)

/-- Whether a document is empty, by the token behind its start. -/
def endsDocument : List Token → Bool
  | [] => true
  | .versionDirective .. :: _ => true
  | .tagDirective .. :: _ => true
  | .documentStart :: _ => true
  | .documentEnd :: _ => true
  | _ => false

/-- The content of a document. -/
def content (fuel : Nat) (s : State) : Option (Node × List Token) :=
  if endsDocument s.tokens then some (empty, s.tokens)
  else (compose true false fuel s).map fun (n, s) => (n, s.tokens)

/-- The documents that start with a mark. -/
def marked : Nat → List Token → Option (List Node)
  | 0, _ => none
  | fuel + 1, tokens =>
    match tokens with
    | [] => some []
    | .documentEnd :: rest => marked fuel rest
    | tokens =>
      match directives false [] tokens with
      | some (tags, .documentStart :: rest) =>
        match content fuel { tokens := rest, tags := tags } with
        | some (n, rest) => (marked fuel rest).map (n :: ·)
        | none => none
      | _ => none

/-- The documents of a text, the first of which may do without a mark. -/
def documents (text : String) : Option (List Node) :=
  match Token.scan text with
  | none => none
  | some tokens =>
    let fuel := 4 * tokens.length + 8
    match tokens with
    | [] => some []
    | .versionDirective .. :: _ => marked fuel tokens
    | .tagDirective .. :: _ => marked fuel tokens
    | .documentStart :: _ => marked fuel tokens
    | tokens =>
      match compose true false fuel { tokens := tokens } with
      | some (n, s) => (marked fuel s.tokens).map (n :: ·)
      | none => none

/-! ## Data -/

/-- The tag of an absent value. -/
def nullTag : String := "tag:yaml.org,2002:null"

/-- The text of a scalar. -/
def text? : Node → Option String
  | .scalar s _ _ => some s
  | _ => none

/-- A scalar as a datum. -/
def scalarDatum (s : String) (isPlain : Bool) (tag : Option String) : Datum :=
  if !isPlain then .text s
  else if tag = some nullTag then .plain s .null
  else .plain s (if tag.isSome then .other else .none)

mutual

/-- A node as a datum. A member whose name is no scalar cannot be read. -/
def toDatum : Node → Datum
  | .scalar s isPlain tag => scalarDatum s isPlain tag
  | .list items => .list (toItems items) none
  | .mapping members =>
    let (read, complete) := toMembers members
    .fields read (if complete then none else some .malformed)
  | .cycle => .broken .malformed

/-- Nodes as data. -/
def toItems : List Node → List Datum
  | [] => []
  | n :: rest => toDatum n :: toItems rest

/-- Members as data, up to the first without a proper name. -/
def toMembers : List (Node × Node) → List (String × Datum) × Bool
  | [] => ([], true)
  | (k, v) :: rest =>
    match k with
    | .scalar name _ _ =>
      let (read, complete) := toMembers rest
      ((name, toDatum v) :: read, complete)
    | _ => ([], false)

end

end Node

/-- The datum of a text that holds at most one document; an empty text is an empty document. -/
def read (text : String) : Datum :=
  match Node.documents text with
  | some [] => Node.empty.toDatum
  | some [n] => n.toDatum
  | _ => .broken .malformed

end SdnZones.Yaml
