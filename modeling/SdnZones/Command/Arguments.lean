-- SUMMARY: Reading the arguments of a command line: options, their values, and words.

/-!
# Arguments

An argument is an option under its long name, a cluster of short names, or a word. An
option may take a value, attached to it or in the next argument; an option may be given
once. After two dashes all arguments are words. Reading stops at the first argument that
breaks these rules or asks for something else.
-/

namespace SdnZones.Command

/-- Why reading stops before the end. -/
inductive Stop where
  /-- The arguments break the rules. -/
  | misuse
  | help
  | version
deriving DecidableEq

/-- What an option does. -/
inductive Role where
  | switch
  /-- It takes a value of some sort. -/
  | value (accepts : String → Bool)
  | stop (s : Stop)

/-- An option. -/
structure Flag where
  long : String
  short : Option Char := none
  role : Role

/-- What may be given. -/
structure Options where
  flags : List Flag
  /-- How many words there may be. -/
  words : Nat := 0

/-- What was given. -/
structure Given where
  switches : List String := []
  values : List (String × String) := []
  words : List String := []

/-- The value of an option. -/
def Given.value? (g : Given) (name : String) : Option String := g.values.lookup name

/-- Whether a switch is on. -/
def Given.isOn (g : Given) (name : String) : Bool := g.switches.contains name

/-- What an argument looks like. -/
inductive Piece where
  /-- Two dashes and nothing else. -/
  | separator
  | long (name : String) (attached : Option String)
  | short (names : List Char)
  | word

/-- What an argument looks like; a single dash is a word. -/
def Piece.of (arg : String) : Piece :=
  match arg.toList with
  | ['-', '-'] => .separator
  | '-' :: '-' :: rest =>
    let (name, value) := rest.span (· != '=')
    match value with
    | _ :: value => .long (String.ofList name) (some (String.ofList value))
    | [] => .long (String.ofList name) none
  | '-' :: c :: rest => .short (c :: rest)
  | _ => .word

/-- How far arguments have been read. -/
structure Reading where
  given : Given := {}
  /-- An option that waits for its value. -/
  pending : Option Flag := none
  /-- Only words follow. -/
  wordsOnly : Bool := false

namespace Reading

/-- Take the value of an option. -/
def takeValue (r : Reading) (flag : Flag) (accepts : String → Bool) (value : String) :
    Except Stop Reading :=
  if (r.given.value? flag.long).isSome || !accepts value then .error .misuse
  else
    .ok { r with
      given := { r.given with values := (flag.long, value) :: r.given.values }
      pending := none }

/-- Take an option with the value that is attached to it, if any. -/
def takeFlag (r : Reading) (flag : Flag) (attached : Option String) : Except Stop Reading :=
  match flag.role, attached with
  | .value accepts, some value => r.takeValue flag accepts value
  | .value _, none => .ok { r with pending := some flag }
  | _, some _ => .error .misuse
  | .stop s, none => .error s
  | .switch, none =>
    if r.given.isOn flag.long then .error .misuse
    else .ok { r with given := { r.given with switches := flag.long :: r.given.switches } }

/-- Take short names; what follows the name of an option with a value is its value. -/
def takeShort (o : Options) (r : Reading) : List Char → Except Stop Reading
  | [] => .ok r
  | c :: rest =>
    match o.flags.find? (·.short == some c) with
    | none => .error .misuse
    | some flag =>
      match flag.role, rest with
      | .value _, '=' :: value => r.takeFlag flag (some (String.ofList value))
      | .value _, v :: value => r.takeFlag flag (some (String.ofList (v :: value)))
      | _, rest =>
        match r.takeFlag flag none with
        | .error s => .error s
        | .ok r => takeShort o r rest

/-- Take a word. -/
def takeWord (o : Options) (r : Reading) (word : String) : Except Stop Reading :=
  if r.given.words.length < o.words then
    .ok { r with given := { r.given with words := r.given.words ++ [word] } }
  else .error .misuse

/-- Take an argument. -/
def take (o : Options) (r : Reading) (arg : String) : Except Stop Reading :=
  match r.wordsOnly, Piece.of arg, r.pending with
  | true, _, none => r.takeWord o arg
  | true, _, some _ => .error .misuse
  | false, .word, some flag =>
    match flag.role with
    | .value accepts => r.takeValue flag accepts arg
    | _ => .error .misuse
  | false, .word, none => r.takeWord o arg
  | false, _, some _ => .error .misuse
  | false, .separator, none => .ok { r with wordsOnly := true }
  | false, .long name attached, none =>
    match o.flags.find? (·.long == name) with
    | some flag => r.takeFlag flag attached
    | none => .error .misuse
  | false, .short names, none => r.takeShort o names

/-- Whether an argument is a word that no option waits for. -/
def atWord (r : Reading) (arg : String) : Bool :=
  match r.wordsOnly, r.pending, Piece.of arg with
  | false, none, .word => true
  | _, _, _ => false

/-- What was given, if nothing is missing. -/
def finish (o : Options) (r : Reading) : Except Stop Given :=
  if r.pending.isSome || r.given.words.length < o.words then .error .misuse else .ok r.given

end Reading

/-- Read all arguments. -/
def Options.read (o : Options) (args : List String) : Except Stop Given :=
  match args.foldlM (Reading.take o) {} with
  | .error s => .error s
  | .ok r => r.finish o

/-- Read arguments up to the first word; the word, and the arguments behind it. -/
def Options.readHead (o : Options) (r : Reading) :
    List String → Except Stop (Given × String × List String)
  | [] => .error .misuse
  | arg :: rest =>
    if r.atWord arg then .ok (r.given, arg, rest)
    else
      match r.take o arg with
      | .error s => .error s
      | .ok r => o.readHead r rest

end SdnZones.Command
